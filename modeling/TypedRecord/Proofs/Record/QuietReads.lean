import TypedRecord.Proofs.Record.RefusedWrites
import TypedRecord.Proofs.Record.Resemblance

/-!
# TypedRecord.Proofs.Record.QuietReads

Reads that build nothing go unnoticed.

A read may put a record in the place of a mapping, and then a later write can be judged otherwise than
without the read (`not_reads_unnoticed`). That takes a schema that has moved since the mapping came in.
Any other read leaves the values of the record as they are, but for tuples that turn into lists: it is
*quiet*. Quiet reads can be inserted into a run and removed from it (`DiffersInReads.outcomes`), because
the two runs go through records that resemble each other all the way.

As long as no schema moves, all reads are quiet (`differsInReads_of_settled`).
-/

namespace TypedRecord

/-! ### Runs that differ in reads -/

namespace Scene

/-- Whether an action reads a field. -/
def Action.isRead : Action → Bool
  | .call request => request.isRead
  | _ => false

/-- Whether an action is a call on the fields of the record. -/
def Action.isFieldCall : Action → Bool
  | .call request => request.onFields
  | _ => false

/-- Whether an action leaves side data alone: a call on the fields of the record, or a schema that
moves. -/
def Action.isPlain : Action → Bool
  | .call request => request.onFields
  | .extend _ _ | .reset _ => true

/-- A run without the reads. -/
def withoutReads (actions : List Action) (answers : List Record.Answer) :
    List (Action × Record.Answer) :=
  (actions.zip answers).filter fun e => !e.1.isRead

/-- A read that leaves the values of the record as they are, but for tuples that turn into lists. -/
structure Action.IsQuiet (action : Action) (s : Scene) : Prop where
  read : action.isRead = true
  data_eq : listedEntries (action.perform.run s).state.record.data = listedEntries s.record.data

/-- Two runs, each from a scene of its own, that are the same but for quiet reads. -/
inductive DiffersInReads : Scene → Scene → List Action → List Action → Prop
  | nil (s t : Scene) : DiffersInReads s t [] []
  | both {s t : Scene} (action : Action) {actions others : List Action}
      (rest : DiffersInReads (action.perform.run s).state (action.perform.run t).state
        actions others) :
      DiffersInReads s t (action :: actions) (action :: others)
  | left {s t : Scene} {action : Action} (hquiet : action.IsQuiet s) {actions others : List Action}
      (rest : DiffersInReads (action.perform.run s).state t actions others) :
      DiffersInReads s t (action :: actions) others
  | right {s t : Scene} {action : Action} (hquiet : action.IsQuiet t) {actions others : List Action}
      (rest : DiffersInReads s (action.perform.run t).state actions others) :
      DiffersInReads s t actions (action :: others)

/-- A scene that differs from another in a record that resembles the one there. -/
structure Resembles (s t : Scene) : Prop where
  catalog_eq : t.catalog = s.catalog
  record : s.record.Resembles t.record

variable {s t u : Scene}

namespace Resembles

theorem symm (h : s.Resembles t) : t.Resembles s := ⟨h.catalog_eq.symm, h.record.symm⟩

theorem trans (h : s.Resembles t) (h' : t.Resembles u) : s.Resembles u :=
  ⟨h'.catalog_eq.trans h.catalog_eq, h.record.trans h'.record⟩

/-- What two runs do together they do alike. -/
theorem perform (h : s.Resembles t) {action : Action} (hplain : action.isPlain = true)
    {answer answer' : Record.Answer} (hs : (action.perform.run s).result = .ok answer)
    (ht : (action.perform.run t).result = .ok answer') :
    (action.isRead = false → answer = answer') ∧
      (action.perform.run s).state.Resembles (action.perform.run t).state := by
  obtain ⟨cat, r⟩ := s
  obtain ⟨cat', r'⟩ := t
  obtain ⟨hcat, hrecord⟩ := h
  obtain rfl : cat' = cat := hcat
  cases action with
  | call request =>
      obtain ⟨hanswers, hnext⟩ := Record.Resembles.perform hrecord hplain hs ht
      exact ⟨hanswers, rfl, hnext⟩
  | extend type fields | reset type =>
      simp only [Action.perform, Act.run_bind_pure] at hs ht ⊢
      exact ⟨fun _ => Except.ok.inj (hs.symm.trans ht), rfl, hrecord⟩

end Resembles

/-- A quiet read leaves a scene that resembles the one before. -/
theorem Action.IsQuiet.resembles {action : Action} (h : action.IsQuiet s) :
    s.Resembles (action.perform.run s).state := by
  cases action with
  | call request =>
      have hread : Record.Read s.catalog s.record _ := Record.Call.read_of_isRead h.read s.record
      exact ⟨rfl, h.data_eq, s.record.header.lastVerdict, hread.header_eq⟩
  | extend _ _ | reset _ => cases h.read

/-! ### Two runs -/

theorem withoutReads_cons_of_read {action : Action} (hread : action.isRead = true)
    (answer : Record.Answer) (actions : List Action) (answers : List Record.Answer) :
    withoutReads (action :: actions) (answer :: answers) = withoutReads actions answers := by
  simp [withoutReads, hread]

/-- Quiet reads that are inserted into a run or removed from it change no answer of another action, and
leave a scene that resembles the one without them. -/
theorem DiffersInReads.outcomes {actions others : List Action} (h : DiffersInReads s t actions others)
    (hst : s.Resembles t) (hplain : ∀ action ∈ actions, action.isPlain = true)
    {answers answers' : List Record.Answer}
    (hs : ((performAll actions).run s).result = .ok answers)
    (ht : ((performAll others).run t).result = .ok answers') :
    withoutReads actions answers = withoutReads others answers' ∧
      ((performAll actions).run s).state.Resembles ((performAll others).run t).state := by
  induction h generalizing answers answers' with
  | nil s t =>
      cases hs
      cases ht
      exact ⟨rfl, hst⟩
  | @both s t action actions others _ ih =>
      obtain ⟨answer, rest, hanswer, hrest, rfl⟩ := Act.inTurn_cons_eq_ok.mp hs
      obtain ⟨answer', rest', hanswer', hrest', rfl⟩ := Act.inTurn_cons_eq_ok.mp ht
      obtain ⟨hhead, htail⟩ := List.forall_mem_cons.mp hplain
      obtain ⟨hsame, hnext⟩ := hst.perform hhead hanswer hanswer'
      rw [state_performAll_cons hanswer, state_performAll_cons hanswer']
      obtain ⟨hkept, hfinal⟩ := ih hnext htail hrest hrest'
      refine ⟨?_, hfinal⟩
      cases hread : action.isRead with
      | true =>
          rw [withoutReads_cons_of_read hread, withoutReads_cons_of_read hread, hkept]
      | false =>
          obtain rfl := hsame hread
          simp only [withoutReads] at hkept
          simp [withoutReads, hread, hkept]
  | @left s t action hquiet actions others _ ih =>
      -- One run reads, the other one waits.
      obtain ⟨answer, rest, hanswer, hrest, rfl⟩ := Act.inTurn_cons_eq_ok.mp hs
      rw [state_performAll_cons hanswer, withoutReads_cons_of_read hquiet.read]
      exact ih (hquiet.resembles.symm.trans hst) (List.forall_mem_cons.mp hplain).2 hrest ht
  | @right s t action hquiet actions others _ ih =>
      obtain ⟨answer', rest', hanswer', hrest', rfl⟩ := Act.inTurn_cons_eq_ok.mp ht
      rw [state_performAll_cons hanswer', withoutReads_cons_of_read hquiet.read]
      exact ih (hst.trans hquiet.resembles) hplain hs hrest'

/-! ### Runs in which no schema moves -/

theorem Action.isFieldCall_of_isRead {action : Action} (h : action.isRead = true) :
    action.isFieldCall = true := by
  cases action with
  | call request =>
      cases request with
      | get _ _ | getPresent _ => rfl
      | _ => cases h
  | extend _ _ | reset _ => cases h

/-- A call on the fields of a record that is settled leaves it settled, among the same types. -/
theorem isSettled_perform (hs : s.record.IsSettled s.catalog) {action : Action}
    (hcall : action.isFieldCall = true) :
    (action.perform.run s).state.record.IsSettled (action.perform.run s).state.catalog := by
  cases action with
  | call request => exact Record.isSettled_perform hs hcall
  | extend _ _ | reset _ => cases hcall

/-- Every read of a settled record is quiet. -/
theorem Action.isQuiet_of_settled (hs : s.record.IsSettled s.catalog) {action : Action}
    (hread : action.isRead = true) : action.IsQuiet s := by
  cases action with
  | call request =>
      have hleft : Record.Read s.catalog s.record _ := Record.Call.read_of_isRead hread s.record
      have hsame := hleft.eq_of_settled hs
      refine ⟨hread, ?_⟩
      show listedEntries ((request.perform s.catalog).run s.record).state.data = _
      rw [hsame]
  | extend _ _ | reset _ => cases hread

/-- A run of reads, from a settled record, differs in quiet reads from one that does nothing. -/
theorem differsInReads_of_reads (ht : t.record.IsSettled t.catalog) {others : List Action}
    (hreads : ∀ action ∈ others, action.isRead = true) : DiffersInReads s t [] others := by
  induction others generalizing t with
  | nil => exact .nil s t
  | cons other others ih =>
      obtain ⟨hread, hrest⟩ := List.forall_mem_cons.mp hreads
      refine .right (Action.isQuiet_of_settled ht hread) ?_
      exact ih (isSettled_perform ht (Action.isFieldCall_of_isRead hread)) hrest

/-- Runs from settled records that are the same without their reads differ in quiet reads only, if what
they share are calls on the fields. -/
theorem differsInReads_of_settled (hs : s.record.IsSettled s.catalog)
    (ht : t.record.IsSettled t.catalog) {actions others : List Action}
    (hcalls : ∀ action ∈ actions, action.isFieldCall = true)
    (hsame : actions.filter (fun action => !action.isRead) =
      others.filter fun action => !action.isRead) : DiffersInReads s t actions others := by
  induction actions generalizing s t others with
  | nil => exact differsInReads_of_reads ht (by simpa using hsame)
  | cons action actions ih =>
      obtain ⟨hcall, hrest⟩ := List.forall_mem_cons.mp hcalls
      cases hread : action.isRead with
      | true =>
          refine .left (Action.isQuiet_of_settled hs hread) ?_
          exact ih (isSettled_perform hs hcall) ht hrest (by simpa [hread] using hsame)
      | false =>
          -- The other run comes to this action after some reads.
          induction others generalizing t with
          | nil => simp [hread] at hsame
          | cons other others ihothers =>
              cases hread' : other.isRead with
              | true =>
                  have hnext := isSettled_perform ht (Action.isFieldCall_of_isRead hread')
                  refine .right (Action.isQuiet_of_settled ht hread') ?_
                  exact ihothers hnext (by simpa [hread'] using hsame)
              | false =>
                  simp only [List.filter_cons, hread, hread', Bool.not_false, if_true,
                    List.cons.injEq] at hsame
                  obtain ⟨rfl, hothers⟩ := hsame
                  exact .both action (ih (isSettled_perform hs hcall) (isSettled_perform ht hcall)
                    hrest hothers)

/-- Every run differs from itself in no reads. -/
theorem DiffersInReads.refl (actions : List Action) : DiffersInReads s t actions actions := by
  induction actions generalizing s t with
  | nil => exact .nil s t
  | cons action actions ih => exact .both action ih

/-! ### Reads that go unnoticed -/

/-- Two runs of writes, reads and schemas that move give the same answers to everything but reads, and
leave a record with the same flags, if the reads that only one of them has build nothing, or if no schema
moves after the record was made. -/
theorem reads_unnoticed {actions others : List Action}
    (hplain : ∀ action ∈ actions, action.isPlain = true)
    (hreads : DiffersInReads s s actions others ∨
      (∃ handed, Record.Reached s.catalog handed s.record) ∧
        (∀ action ∈ actions, action.isFieldCall = true) ∧
        actions.filter (fun action => !action.isRead) =
          others.filter fun action => !action.isRead)
    {answers answers' : List Record.Answer}
    (hrun : ((performAll actions).run s).result = .ok answers)
    (hrun' : ((performAll others).run s).result = .ok answers') :
    let final := ((performAll actions).run s).state.record
    let final' := ((performAll others).run s).state.record
    withoutReads actions answers = withoutReads others answers' ∧
      final'.header.valid = final.header.valid ∧ final'.header.tainted = final.header.tainted := by
  have hdiffers : DiffersInReads s s actions others := by
    rcases hreads with hdiffers | ⟨⟨handed, hreached⟩, hcalls, hsame⟩
    · exact hdiffers
    · have hsettled := Record.isSettled_of_reached hreached
      exact differsInReads_of_settled hsettled hsettled hcalls hsame
  obtain ⟨hanswers, _, _, last, hheader⟩ :=
    hdiffers.outcomes ⟨rfl, .refl s.record⟩ hplain hrun hrun'
  exact ⟨hanswers, by rw [hheader], by rw [hheader]⟩

/-- Reads the note in a box. -/
def readNote : Action := .call (.get (.str "note") .nil)

/-- A note comes into a box as a plain mapping, while the schema says so, and then the count changes. -/
def noteRun : List Action :=
  [.extend 2 [(.str "note", .str "Dictionary")],
    .call (.set (.str "note") (.dict none [(.str "text", .str "N")])), .reset 2,
    .call (.set (.str "count") (.int 2))]

/-- The same with the note read before the count changes. -/
def noteRunReading : List Action := noteRun.take 3 ++ readNote :: noteRun.drop 3

/-- Reading the note before anything else goes unnoticed. -/
theorem reads_unnoticed_of_box : ∃ verdict r answers answers',
    Record.madeBox = .ok (verdict, r) ∧
      ((performAll noteRun).run ⟨Record.boxes, r⟩).result = .ok answers ∧
      ((performAll (readNote :: noteRun)).run ⟨Record.boxes, r⟩).result = .ok answers' ∧
      withoutReads noteRun answers = withoutReads (readNote :: noteRun) answers' := by
  obtain ⟨⟨verdict, r⟩, hmake, hruns⟩ := @Act.exists_of_passes (Verdict × Record)
    (fun out =>
      Act.passes (fun _ => true) ((performAll noteRun).run ⟨Record.boxes, out.2⟩).result &&
      Act.passes (fun _ => true)
        ((performAll (readNote :: noteRun)).run ⟨Record.boxes, out.2⟩).result)
    Record.madeBox (by decide +kernel)
  rw [Bool.and_eq_true] at hruns
  obtain ⟨answers, hrun, _⟩ := Act.exists_of_passes hruns.1
  obtain ⟨answers', hrun', _⟩ := Act.exists_of_passes hruns.2
  have hsettled : r.IsSettled Record.boxes := Record.isSettled_make hmake
  have hquiet : readNote.IsQuiet ⟨Record.boxes, r⟩ := Action.isQuiet_of_settled hsettled rfl
  have hsame := reads_unnoticed (by simp [noteRun, Action.isPlain, Record.Call.onFields])
    (.inl (.right hquiet (.refl noteRun))) hrun hrun'
  exact ⟨verdict, r, answers, answers', hmake, hrun, hrun', hsame.1⟩

/-- What the last action of a run answers, if it answers by a flag. -/
def lastFlag? (run : List (Action × Record.Answer)) : Option Bool :=
  match run.getLast? with
  | some (_, .flag valid) => some valid
  | _ => none

/-- Reading the note after the schema has moved makes a record of it, and the write that follows is no
longer refused. -/
theorem not_reads_unnoticed :
    ¬ ∀ (s : Scene) (actions others : List Action) (answers answers' : List Record.Answer),
      (∃ handed, Record.Reached s.catalog handed s.record) →
      (∀ action ∈ actions, action.isPlain = true) →
      (actions.filter (fun action => !action.isRead) =
        others.filter fun action => !action.isRead) →
      ((performAll actions).run s).result = .ok answers →
      ((performAll others).run s).result = .ok answers' →
        withoutReads actions answers = withoutReads others answers' := by
  intro h
  obtain ⟨⟨verdict, r⟩, hmake, hruns⟩ := @Act.exists_of_passes (Verdict × Record)
    (fun out =>
      Act.passes (fun answers => lastFlag? (withoutReads noteRun answers) = some false)
        ((performAll noteRun).run ⟨Record.boxes, out.2⟩).result &&
      Act.passes (fun answers => lastFlag? (withoutReads noteRunReading answers) = some true)
        ((performAll noteRunReading).run ⟨Record.boxes, out.2⟩).result)
    Record.madeBox (by decide +kernel)
  rw [Bool.and_eq_true] at hruns
  obtain ⟨answers, hrun, hrefused⟩ := Act.exists_of_passes hruns.1
  obtain ⟨answers', hrun', hkept⟩ := Act.exists_of_passes hruns.2
  have hsame := h ⟨Record.boxes, r⟩ noteRun noteRunReading answers answers'
    ⟨fun _ => True, .made trivial hmake⟩ (by simp [noteRun, Action.isPlain, Record.Call.onFields])
    rfl hrun hrun'
  simp only [decide_eq_true_eq] at hrefused hkept
  rw [hsame, hkept] at hrefused
  cases hrefused

end Scene

end TypedRecord
