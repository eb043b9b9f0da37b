import TypedRecord.Proofs.Nested
import TypedRecord.Proofs.Reportable

/-!
# TypedRecord.Proofs.Alike

Nothing that decides about a record can tell alike values apart.

Values are alike when they are the same made anew (`Value.remade`). Candidates that are alike are judged
alike (`Catalog.judge_alike`): the findings are about the same fields, and whether a finding can be
reported hangs on keys and numbers only. Alike values are equal (`Value.equalAs_of_alike`).
-/

namespace TypedRecord

mutual

/-- Plain data in its plain form is made anew and nothing else. -/
theorem Value.IsPlain.remade_eq_plain : (v : Value) → v.IsPlain → v.remade = v.plain
  | .list _ items, h => by
      simp [Value.remade, Value.plain, ArePlain.remadeItems_eq_plainItems items h]
  | .dict _ entries, h | .view _ entries, h => by
      simp [Value.remade, Value.plain, ArePlainEntries.remadeEntries_eq_plainEntries entries h.2]
  | .record _ _ _, h => h.elim
  | .atom _ _, _ | .reference _, _ | .buffer _ _, _ | .tuple _ _, _ | .set _, _ => rfl

theorem ArePlain.remadeItems_eq_plainItems : (items : List Value) → ArePlain items →
    remadeItems items = plainItems items
  | [], _ => rfl
  | v :: vs, h => by
      simp [remadeItems, plainItems, Value.IsPlain.remade_eq_plain v h.1,
        ArePlain.remadeItems_eq_plainItems vs h.2]

theorem ArePlainEntries.remadeEntries_eq_plainEntries : (es : List (Key × Value)) →
    ArePlainEntries es → remadeEntries es = plainEntries es
  | [], _ => rfl
  | (_, v) :: es, h => by
      simp [remadeEntries, plainEntries, Value.IsPlain.remade_eq_plain v h.1,
        ArePlainEntries.remadeEntries_eq_plainEntries es h.2]

end

/-! ### Issues that can be built -/

@[simp] theorem Shape.isOk_both {α β : Type} (a : Shaped α) (b : Shaped β) :
    (Shape.both a b).isOk = (a.isOk && b.isOk) := by
  rcases a with (_ | _) | _ <;> rcases b with (_ | _) | _ <;> rfl

@[simp] theorem Shape.isOk_at' {α : Type} (place : Place) (part : Shaped α) :
    (Shape.at' place part).isOk = part.isOk := by
  cases part <;> rfl

@[simp] theorem Except.isOk_map {ε α β : Type} (f : α → β) (e : Except ε α) :
    (e.map f).isOk = e.isOk := by
  cases e <;> rfl

theorem Shape.isOk_all {α : Type} (parts : List (Shaped α)) :
    (Shape.all parts).isOk = parts.all Except.isOk := by
  induction parts with
  | nil => rfl
  | cons part parts ih => simp [Shape.all, ih]

/-- Whether an excerpt can be reported is decided by its keys. -/
theorem isOk_reportedExcerpt (es : List (Key × String)) :
    (reportedExcerpt es).isOk = (es.map Prod.fst).all fun k => (Shape.name k).isOk := by
  have hok (preview : String) : (Except.ok preview : Shaped String).isOk = true := rfl
  simp [reportedExcerpt, Shape.named, Shape.isOk_all, Function.comp_def, hok]

/-- Whether there is an issue about a field in some data, whatever is wrong with it. -/
def isShown (size : Int) (data : Entries Value) (fields : List Key) (field : Key) : Bool :=
  field.isWritable && ((neighbours size data fields field).all fun e => e.2.isWritable) &&
    (reportedField field).isOk &&
    (Entries.keys (neighbours size data fields field)).all fun k => (Shape.name k).isOk

theorem Complaint.isOk_finding (c : Complaint) (size : Int) (data : Entries Value)
    (fields : List Key) (field : Key) :
    (c.finding size data fields field).isOk = isShown size data fields field := by
  have hexcerpt : (excerpt size data fields field).map Prod.fst =
      Entries.keys (neighbours size data fields field) := by
    simp [excerpt, Entries.keys, Function.comp_def]
  have hboth := Shape.isOk_both (reportedField field) (reportedExcerpt (excerpt size data fields field))
  rw [isOk_reportedExcerpt, hexcerpt] at hboth
  have hnot : ((neighbours size data fields field).all fun e => e.2.isWritable) =
      !((neighbours size data fields field).any fun e => !e.2.isWritable) := by
    simp [List.not_any_eq_all_not]
  unfold finding isShown
  rw [Bool.and_assoc, ← hboth, hnot]
  cases field.isWritable with
  | false => rfl
  | true =>
      cases (neighbours size data fields field).any fun e => !e.2.isWritable with
      | true => rfl
      | false =>
          rcases Shape.both (reportedField field)
            (reportedExcerpt (excerpt size data fields field)) with (_ | _) | _ <;> rfl

/-! ### Judging -/

theorem neighbours_remadeEntries (size : Int) (data : Entries Value) (fields : List Key)
    (field : Key) :
    neighbours size (remadeEntries data) fields field =
      remadeEntries (neighbours size data fields field) := by
  simp only [neighbours, remadeEntries_eq_map (List.filterMap _ _), List.map_filterMap]
  congr
  funext k
  rw [find?_remadeEntries]
  cases Entries.find? k data <;> rfl

theorem isShown_remadeEntries (size : Int) (data : Entries Value) (fields : List Key)
    (field : Key) :
    isShown size (remadeEntries data) fields field = isShown size data fields field := by
  simp only [isShown, neighbours_remadeEntries, keys_remadeEntries]
  simp [remadeEntries_eq_map (neighbours size data fields field), Function.comp_def]

theorem orderedFields_remadeEntries (data : Entries Value) (schema : Schema) :
    orderedFields (remadeEntries data) schema = orderedFields data schema := by
  simp [orderedFields]

/-- There is the same to complain of. -/
theorem complaint?_remadeEntries (known : Option (List String)) (data : Entries Value) (field : Key)
    (declared : Value) :
    complaint? known (remadeEntries data) field declared = complaint? known data field declared := by
  unfold complaint?
  rw [find?_remadeEntries]
  cases declared.descriptor with
  | error m => cases data.find? field <;> simp
  | ok d =>
      cases data.find? field with
      | none => rfl
      | some v => simp [mismatch?_remade, mismatchMessage]

/-- The findings are issues in the same places. -/
theorem findings_remadeEntries (known : Option (List String)) (size : Int) (data : Entries Value)
    (schema : Schema) (mode : Mode) :
    (findings known size (.dict none (remadeEntries data)) schema mode).map Except.isOk =
      (findings known size (.dict none data) schema mode).map Except.isOk := by
  have hdeclared : (declaredFindings known size (remadeEntries data) schema).map Except.isOk =
      (declaredFindings known size data schema).map Except.isOk := by
    simp only [declaredFindings, List.map_filterMap, complaint?_remadeEntries,
      orderedFields_remadeEntries, Option.map_map]
    congr 1
    funext f
    congr 1
    funext c
    unfold Complaint.declaredFinding Function.comp
    cases f.2.isWritable with
    | false => rfl
    | true => simp [Complaint.isOk_finding, isShown_remadeEntries]
  have hundeclared : (undeclaredFindings size (remadeEntries data) schema).map Except.isOk =
      (undeclaredFindings size data schema).map Except.isOk := by
    -- Which keys are undeclared, and which of them can be reported, hangs on the keys alone.
    have hkeys (es : Entries Value) (shown : Key → Bool) :
        ((es.filter fun e => !schema.has e.1).map fun e => shown e.1) =
          ((Entries.keys es).filter fun k => !schema.has k).map shown := by
      simp [Entries.keys, List.filter_map, Function.comp_def]
    simp only [undeclaredFindings, orderedFields_remadeEntries, List.map_map, Function.comp_def,
      Complaint.isOk_finding, isShown_remadeEntries, hkeys, keys_remadeEntries]
  unfold findings
  by_cases hschema : schema = []
  · simp [hschema]
  · simp only [hschema, if_false, Value.entries?, List.map_append, hdeclared]
    cases mode with
    | strict => simp only [hundeclared]
    | loose => rfl

namespace Catalog

variable {cat : Catalog} {t : TypeId} {mode : Mode}

theorem visible_remadeEntries (data : Entries Value) :
    cat.visible t (remadeEntries data) = remadeEntries (cat.visible t data) := by
  simp [visible, remadeEntries_eq_map, List.filter_map, Function.comp_def]

/-- Data made anew is judged alike. -/
theorem validateAs_remadeEntries (v : Validator) (data : Entries Value) :
    (cat.validateAs t v mode (remadeEntries data)).answer.toOption.map Verdict.valid =
      (cat.validateAs t v mode data).answer.toOption.map Verdict.valid := by
  simp only [validateAs, answer_validate, visible_remadeEntries]
  cases v.enabled with
  | false => rfl
  | true =>
      have hfound := findings_remadeEntries (cat.known v.registry) v.excerpt (cat.visible t data)
        (cat.schemaOf t) mode
      generalize findings (cat.known v.registry) v.excerpt
        (.dict none (remadeEntries (cat.visible t data))) (cat.schemaOf t) mode = anew at hfound
      generalize findings (cat.known v.registry) v.excerpt (.dict none (cat.visible t data))
        (cat.schemaOf t) mode = found at hfound
      cases anew with
      | nil => cases found with
        | nil => rfl
        | cons _ _ => cases hfound
      | cons first' _ => cases found with
        | nil => cases hfound
        | cons first _ =>
            have hfirst : first'.isOk = first.isOk := (List.cons.inj hfound).1
            cases first' <;> cases first <;> first | rfl | cases hfirst

/-- Candidates that are the same made anew are judged alike: the verdicts agree on whether they are
valid, and if they are, the records differ in their data only. -/
theorem judge_alike {setup : Setup} {candidate candidate' : Entries Value}
    (halike : remadeEntries candidate' = remadeEntries candidate) {verdict : Verdict} {r : Record}
    (h : (cat.judge t mode setup candidate).answer = .ok (verdict, r)) :
    ∃ verdict' r', (cat.judge t mode setup candidate').answer = .ok (verdict', r') ∧
      verdict'.valid = verdict.valid ∧
      (verdict.valid = true → verdict' = verdict ∧ r' = ⟨r.header, candidate'⟩) := by
  by_cases hschema : cat.schemaOf t = []
  · simp only [judge, hschema, if_true, Act.answer_pure] at h ⊢
    cases h
    exact ⟨_, _, rfl, rfl, fun _ => ⟨rfl, rfl⟩⟩
  · have hvalid := @validateAs_remadeEntries cat t mode setup.validator candidate'
    rw [halike, validateAs_remadeEntries] at hvalid
    rw [answer_judge hschema] at h ⊢
    cases hverdict : (cat.validateAs t setup.validator mode candidate).answer with
    | error failure => rw [hverdict] at h; cases h
    | ok reached =>
        rw [hverdict] at h hvalid
        obtain ⟨rfl, rfl⟩ := Prod.mk.inj (Except.ok.inj h)
        cases hverdict' : (cat.validateAs t setup.validator mode candidate').answer with
        | error failure => rw [hverdict'] at hvalid; cases hvalid
        | ok verdict' =>
            rw [hverdict'] at hvalid
            have hagree : reached.valid = verdict'.valid := Option.some.inj hvalid
            refine ⟨verdict', _, rfl, hagree.symm, fun hreached => ?_⟩
            have hsame : verdict' = reached := by
              have hissues := (Verdict.valid_iff reached).mp hreached
              have hissues' := (Verdict.valid_iff verdict').mp (hagree ▸ hreached)
              exact congrArg Verdict.mk (hissues'.trans hissues.symm)
            subst hsame
            exact ⟨rfl, by simp [hreached]⟩

end Catalog

/-! ### Equality -/

/-- What is found under the key of an entry in the same mapping made anew. -/
theorem exists_find?_of_alike {entries others : Entries Value} (hdistinct : entries.Distinct)
    (halike : remadeEntries entries = remadeEntries others) :
    ∀ e ∈ entries, ∃ w, Entries.find? e.1 others = some w ∧ e.2.remade = w.remade := by
  intro e he
  have hfind : Entries.find? e.1 entries = some e.2 := hdistinct.find?_of_mem he (Key.same_refl _)
  have hremade : (Entries.find? e.1 others).map Value.remade = some e.2.remade := by
    rw [← find?_remadeEntries, ← halike, find?_remadeEntries, hfind]
    rfl
  obtain ⟨w, hw, hsame⟩ := Option.map_eq_some_iff.mp hremade
  exact ⟨w, hw, hsame.symm⟩

theorem length_eq_of_alike {entries others : Entries Value}
    (halike : remadeEntries entries = remadeEntries others) : entries.length = others.length := by
  have := congrArg List.length halike
  simpa [remadeEntries_eq_map] using this

/-- A mapping or record is only like another one. -/
theorem Value.exists_comparedEntries? {plain : Bool} {w : Value} {entries : Entries Value}
    (halike : .dict none (remadeEntries entries) = w.remade) :
    ∃ others, w.comparedEntries? plain = some others ∧
      remadeEntries entries = remadeEntries others := by
  cases w with
  | dict _ others | view _ others =>
      simp only [Value.remade, Value.dict.injEq, true_and] at halike
      exact ⟨others, rfl, halike⟩
  | _ => simp [Value.remade] at halike

mutual

/-- A whole value equals all that are like it. -/
theorem Value.equalAs_of_alike (plain : Bool) : (v w : Value) → v.IsWhole → v.remade = w.remade →
    v.equalAs plain w = true
  | .list _ xs, w, hv, halike => by
      cases w with
      | list _ ys =>
          simp only [Value.remade, Value.list.injEq, true_and] at halike
          simp [Value.equalAs, equalItems_of_alike plain xs ys hv.2 halike]
      | _ => simp [Value.remade] at halike
  | .tuple _ xs, w, hv, halike => by
      cases w with
      | tuple _ ys =>
          simp only [Value.remade, Value.tuple.injEq] at halike
          obtain ⟨rfl, _, rfl⟩ := halike
          simp [Value.equalAs, equalItems_of_alike false xs xs hv.2 rfl]
      | _ => simp [Value.remade] at halike
  | .dict _ xs, w, hv, halike | .view _ xs, w, hv, halike => by
      obtain ⟨ys, hys, hentries⟩ := @Value.exists_comparedEntries? plain _ _ halike
      have hequal := equalEntries_of_alike plain ys xs hv.2 (exists_find?_of_alike hv.1 hentries)
      simp [Value.equalAs, hys, hequal, length_eq_of_alike hentries]
  | .record _ header xs, w, hv, halike => by
      cases w with
      | record _ header' ys =>
          simp only [Value.remade, Value.record.injEq, true_and] at halike
          obtain ⟨rfl, hentries⟩ := halike
          have hequal := equalEntries_of_alike true ys xs hv.2 (exists_find?_of_alike hv.1 hentries)
          cases plain <;>
            simp [Value.equalAs, Value.comparedEntries?, hequal, length_eq_of_alike hentries]
      | _ => simp [Value.remade] at halike
  | .atom _ a, w, _, halike => by
      cases w with
      | atom _ b =>
          simp only [Value.remade, Value.atom.injEq] at halike
          obtain ⟨_, rfl⟩ := halike
          cases a <;> simp [Value.equalAs, Atom.same]
      | _ => simp [Value.remade] at halike
  | .buffer _ _, w, _, halike => by
      cases w <;> simp_all [Value.remade, Value.equalAs]
  | .set xs, w, _, halike => by
      cases w with
      | set ys =>
          simp only [Value.remade, Value.set.injEq] at halike
          subst halike
          simp only [Value.equalAs, decide_true, Bool.true_and, List.all_eq_true, List.any_eq_true]
          exact fun x hx => ⟨x, hx, Key.same_refl x⟩
      | _ => simp [Value.remade] at halike
  | .reference _, _, hv, _ => hv.elim

theorem equalItems_of_alike (plain : Bool) : (xs ys : List Value) →
    ThroughoutItems Value.IsClear xs → remadeItems xs = remadeItems ys →
      equalItems plain xs ys = true
  | [], [], _, _ => rfl
  | x :: xs, y :: ys, hxs, halike => by
      simp only [remadeItems, List.cons.injEq] at halike
      simp [equalItems, Value.equalAs_of_alike plain x y hxs.1 halike.1,
        equalItems_of_alike plain xs ys hxs.2 halike.2]
  | [], _ :: _, _, halike | _ :: _, [], _, halike => by simp [remadeItems] at halike

theorem equalEntries_of_alike (plain : Bool) (others : List (Key × Value)) :
    (entries : List (Key × Value)) → ThroughoutEntries Value.IsClear entries →
      (∀ e ∈ entries, ∃ w, Entries.find? e.1 others = some w ∧ e.2.remade = w.remade) →
        equalEntries plain entries others = true
  | [], _, _ => rfl
  | (k, v) :: es, hes, hfound => by
      obtain ⟨⟨w, hw, halike⟩, hrest⟩ := List.forall_mem_cons.mp hfound
      simp [equalEntries, hw, Value.equalAs_of_alike plain v w hes.1 halike,
        equalEntries_of_alike plain others es hes.2 hrest]

end

end TypedRecord
