import TypedRecord.Act

/-!
# TypedRecord.Proofs.Act

Five ways to reason about operations without opening them up.

* `Act.answer` is the result of an operation without state. It takes sequences of operations to
  sequences in `Except`, so a question about an answer is one about ordinary functions.
* `Act.EndsIn` says of one run in which state it ends and what it answers.
* `Act.Maintains P` says that an operation leaves a state with the property `P` in one with `P`, also
  where it fails.
* `Act.Tracks R` compares two operations: from states related by `R` they give one result and go to
  states related by `R`.
* `Act.ReportsOnly P` says that an operation gives no notices but such with the property `P`, whether it
  fails or not.

The last four are closed under sequencing. What a state is asked for in between enters by
`Maintains.get_bind` and `Tracks.get_bind`, which hand on what is known of the state.
-/

namespace TypedRecord

namespace Act

variable {σ α β : Type}

/-! ### Results -/

/-- Whether a result is an answer that passes a test. -/
def passes (test : α → Bool) : Except Failure α → Bool
  | .ok a => test a
  | .error _ => false

theorem exists_of_passes {test : α → Bool} {e : Except Failure α} (h : passes test e = true) :
    ∃ a, e = .ok a ∧ test a = true := by
  cases e with
  | error failure => cases h
  | ok a => exact ⟨a, rfl, h⟩

/-! ### Sequences -/

/-- A sequence answers what its second part answers after its first. -/
theorem result_bind (act : Act σ α) (next : α → Act σ β) (s : σ) :
    (run (act >>= next) s).result =
      (run act s).result >>= fun a => (run (next a) (run act s).state).result := by
  cases h : (run act s).result with
  | error failure => rw [run_bind_error h]; rfl
  | ok a => rw [run_bind_ok h]; rfl

/-- Where the first part fails, a sequence stops; else it goes where its second part goes. -/
theorem state_bind (act : Act σ α) (next : α → Act σ β) (s : σ) :
    (run (act >>= next) s).state =
      match (run act s).result with
      | .error _ => (run act s).state
      | .ok a => (run (next a) (run act s).state).state := by
  cases h : (run act s).result with
  | error failure => rw [run_bind_error h]
  | ok a => rw [run_bind_ok h]

/-- The notices of a sequence are those of its first part, and then, where it ends, those of its
second. -/
theorem notices_bind (act : Act σ α) (next : α → Act σ β) (s : σ) :
    (run (act >>= next) s).notices = (run act s).notices ++
      match (run act s).result with
      | .error _ => []
      | .ok a => (run (next a) (run act s).state).notices := by
  cases h : (run act s).result with
  | error failure => rw [run_bind_error h, List.append_nil]
  | ok a => rw [run_bind_ok h]

/-- Answering something else. -/
@[simp] theorem run_bind_pure (f : α → β) (act : Act σ α) (s : σ) :
    run (act >>= fun a => pure (f a)) s =
      ⟨(run act s).state, (run act s).notices, (run act s).result.map f⟩ := by
  cases h : (run act s).result with
  | error failure => exact run_bind_error h
  | ok a =>
      rw [run_bind_ok h]
      simp [Except.map]

@[simp] theorem run_ofExcept (e : Except Failure α) (s : σ) :
    run (ofExcept e) s = ⟨s, [], e⟩ := by
  cases e <;> rfl

/-- Asking for the state first. -/
@[simp] theorem run_get_bind (next : σ → Act σ β) (s : σ) :
    run (get >>= next) s = run (next s) s := by
  rw [run_bind_ok (a := s) rfl]
  simp

/-- Going on from an answer that is known. -/
theorem run_ofExcept_bind (a : α) (next : α → Act σ β) (s : σ) :
    run (ofExcept (.ok a) >>= next) s = run (next a) s := by
  rw [run_bind_ok (a := a) rfl]
  simp

theorem ok_bind (a : α) (next : α → Except Failure β) : (Except.ok a >>= next) = next a := rfl

theorem map_bind {γ : Type} (e : Except Failure α) (next : α → Except Failure β) (f : β → γ) :
    (e >>= next).map f = e >>= fun a => (next a).map f := by
  cases e <;> rfl

/-- A sequence in `Except` ends well exactly when both parts do. -/
theorem bind_eq_ok {e : Except Failure α} {next : α → Except Failure β} {b : β} :
    (e >>= next) = .ok b ↔ ∃ a, e = .ok a ∧ next a = .ok b := by
  constructor
  · intro h
    cases e with
    | error failure => cases h
    | ok a => exact ⟨a, rfl, h⟩
  · rintro ⟨a, rfl, h⟩
    exact h

/-- A result that is passed through a function is an answer exactly where it was one. -/
theorem map_eq_ok {e : Except Failure α} {f : α → β} {b : β} :
    e.map f = .ok b ↔ ∃ a, e = .ok a ∧ f a = b := by
  cases e with
  | error failure => simp [Except.map]
  | ok a => simp [Except.map]

/-- Where each step succeeds, the results are those of the steps. -/
theorem mapM_eq_ok {ε : Type} {f : α → Except ε β} {g : α → β} {as : List α}
    (h : ∀ a ∈ as, f a = .ok (g a)) : as.mapM f = .ok (as.map g) := by
  induction as with
  | nil => rfl
  | cons a as ih =>
    obtain ⟨hfirst, hrest⟩ := List.forall_mem_cons.mp h
    rw [List.mapM_cons, hfirst, ih hrest]
    rfl

/-- Operations in turn come to an end exactly when each of them does. -/
theorem inTurn_cons_eq_ok {act : Act σ α} {rest : List (Act σ α)} {s : σ} {answers : List α} :
    (run (inTurn (act :: rest)) s).result = .ok answers ↔
      ∃ a as, (run act s).result = .ok a ∧
        (run (inTurn rest) (run act s).state).result = .ok as ∧ answers = a :: as := by
  rw [inTurn, result_bind, bind_eq_ok]
  simp only [run_bind_pure]
  constructor
  · rintro ⟨a, ha, hrest⟩
    cases has : (run (inTurn rest) (run act s).state).result with
    | error failure => rw [has] at hrest; cases hrest
    | ok as =>
        rw [has] at hrest
        cases hrest
        exact ⟨a, as, ha, rfl, rfl⟩
  · rintro ⟨a, as, ha, has, rfl⟩
    exact ⟨a, ha, by rw [has]; rfl⟩

/-- Operations in turn that come to an end have one answer each. -/
theorem length_of_inTurn {acts : List (Act σ α)} {s : σ} {answers : List α}
    (h : (run (inTurn acts) s).result = .ok answers) : answers.length = acts.length := by
  induction acts generalizing s answers with
  | nil =>
      cases h
      rfl
  | cons act rest ih =>
      obtain ⟨a, as, _, has, rfl⟩ := inTurn_cons_eq_ok.mp h
      rw [List.length_cons, List.length_cons, ih has]

/-- Operations in turn go where the later ones go from where the first one went. -/
theorem state_inTurn_cons {act : Act σ α} {rest : List (Act σ α)} {s : σ} {a : α}
    (h : (run act s).result = .ok a) :
    (run (inTurn (act :: rest)) s).state = (run (inTurn rest) (run act s).state).state := by
  rw [inTurn, run_bind_ok h, run_bind_pure]

/-- Operations in turn go alike if the first ones do and the rest does from where they go. -/
theorem run_inTurn_cons_congr {act act' : Act σ α} {rest rest' : List (Act σ α)} {s : σ}
    (hact : run act s = run act' s)
    (hrest : run (inTurn rest) (run act' s).state = run (inTurn rest') (run act' s).state) :
    run (inTurn (act :: rest)) s = run (inTurn (act' :: rest')) s := by
  unfold inTurn
  cases hresult : (run act' s).result with
  | error failure => rw [run_bind_error hresult, run_bind_error (hact ▸ hresult), hact]
  | ok a =>
      rw [run_bind_ok hresult, run_bind_ok (hact ▸ hresult), hact]
      simp only [run_bind_pure, hrest]

/-! ### Answers without a state -/

/-- What an operation without state answers. -/
def answer (act : Traced α) : Except Failure α := (run act ()).result

@[simp] theorem answer_pure (a : α) : answer (pure a : Traced α) = .ok a := rfl

@[simp] theorem answer_ofExcept (e : Except Failure α) : answer (ofExcept e : Traced α) = e := by
  cases e <;> rfl

@[simp] theorem answer_bind (act : Traced α) (next : α → Traced β) :
    answer (act >>= next) = answer act >>= fun a => answer (next a) :=
  result_bind act next ()

@[simp] theorem answer_deliver (sink : Sink) (event : Event) :
    answer (deliver sink event) = .ok () := result_deliver sink event ()

@[simp] theorem result_run_unit (act : Traced α) : (run act ()).result = answer act := rfl

/-- Operations in turn answer what each of them answers. -/
theorem answer_inTurn_eq_ok {acts : List (Traced α)} {answers : List α} :
    answer (inTurn acts) = .ok answers ↔ acts.map answer = answers.map .ok := by
  induction acts generalizing answers with
  | nil => cases answers <;> simp [inTurn]
  | cons act rest ih =>
      have hcons : answer (inTurn (act :: rest)) = .ok answers ↔
          ∃ a as, answer act = .ok a ∧ answer (inTurn rest) = .ok as ∧ answers = a :: as :=
        inTurn_cons_eq_ok
      rw [hcons, List.map_cons]
      constructor
      · rintro ⟨a, as, ha, has, rfl⟩
        rw [List.map_cons, ha, ih.mp has]
      · intro h
        cases answers with
        | nil => cases h
        | cons a as =>
            obtain ⟨ha, has⟩ := List.cons.inj h
            exact ⟨a, as, ha, ih.mpr has, rfl⟩

/-- They come to an end where each of them does. -/
theorem exists_answer_inTurn_iff {acts : List (Traced α)} :
    (∃ answers, answer (inTurn acts) = .ok answers) ↔ ∀ act ∈ acts, ∃ a, answer act = .ok a := by
  simp only [answer_inTurn_eq_ok]
  constructor
  · rintro ⟨answers, h⟩ act hact
    have hmem : answer act ∈ answers.map Except.ok := h ▸ List.mem_map_of_mem hact
    obtain ⟨a, _, ha⟩ := List.mem_map.mp hmem
    exact ⟨a, ha.symm⟩
  · intro h
    induction acts with
    | nil => exact ⟨[], rfl⟩
    | cons act rest ih =>
        obtain ⟨a, ha⟩ := h act List.mem_cons_self
        obtain ⟨as, has⟩ := ih fun other hother => h other (List.mem_cons_of_mem act hother)
        exact ⟨a :: as, by rw [List.map_cons, ha, has, List.map_cons]⟩

/-! ### One run -/

/-- An operation goes from one state to another and answers. -/
def EndsIn (act : Act σ α) (s t : σ) (a : α) : Prop :=
  (run act s).state = t ∧ (run act s).result = .ok a

namespace EndsIn

theorem of_pure (a : α) (s : σ) : EndsIn (pure a) s s a := ⟨rfl, rfl⟩

theorem of_modify (f : σ → σ) (s : σ) : EndsIn (modify f) s (f s) () := ⟨rfl, rfl⟩

theorem bind {act : Act σ α} {next : α → Act σ β} {s t u : σ} {a : α} {b : β}
    (hact : EndsIn act s t a) (hnext : EndsIn (next a) t u b) : EndsIn (act >>= next) s u b := by
  obtain ⟨hstate, hresult⟩ := hact
  unfold EndsIn
  rw [run_bind_ok hresult, hstate]
  exact hnext

theorem get_bind {next : σ → Act σ β} {s t : σ} {b : β} (h : EndsIn (next s) s t b) :
    EndsIn (get >>= next) s t b := by
  unfold EndsIn
  rw [run_get_bind]
  exact h

end EndsIn

/-! ### What an operation leaves as it is -/

/-- An operation maintains a property of the state. -/
def Maintains (P : σ → Prop) (act : Act σ α) : Prop := ∀ s, P s → P (run act s).state

namespace Maintains

variable {P : σ → Prop}

theorem of_state_eq {act : Act σ α} (h : ∀ s, (run act s).state = s) : Maintains P act := by
  intro s hs
  rw [h s]
  exact hs

theorem of_pure (a : α) : Maintains P (pure a : Act σ α) := of_state_eq fun _ => rfl

theorem of_throw (failure : Failure) : Maintains P (throw failure : Act σ α) :=
  of_state_eq fun _ => rfl

theorem of_ofExcept (e : Except Failure α) : Maintains P (ofExcept e : Act σ α) :=
  of_state_eq fun _ => by simp

theorem of_lift (act : Traced α) : Maintains P (lift act : Act σ α) := of_state_eq fun _ => rfl

theorem of_notify (notices : List Notice) : Maintains P (notify notices : Act σ Unit) :=
  of_state_eq fun _ => rfl

theorem of_modify {f : σ → σ} (h : ∀ s, P s → P (f s)) :
    Maintains P (modify f : Act σ Unit) := h

theorem bind {act : Act σ α} {next : α → Act σ β} (hact : Maintains P act)
    (hnext : ∀ a, Maintains P (next a)) : Maintains P (act >>= next) := by
  intro s hs
  rw [state_bind]
  have hfirst := hact s hs
  cases (run act s).result with
  | error failure => exact hfirst
  | ok a => exact hnext a _ hfirst

theorem get_bind {next : σ → Act σ β} (h : ∀ s, P s → Maintains P (next s)) :
    Maintains P (get >>= next) := by
  intro s hs
  rw [run_get_bind]
  exact h s hs s hs

theorem of_inTurn {acts : List (Act σ α)} (h : ∀ act ∈ acts, Maintains P act) :
    Maintains P (inTurn acts) := by
  induction acts with
  | nil => exact of_pure []
  | cons act rest ih =>
      obtain ⟨hact, hrest⟩ := List.forall_mem_cons.mp h
      exact hact.bind fun _ => (ih hrest).bind fun _ => of_pure _

end Maintains

/-! ### Two operations side by side -/

/-- From related states two operations give one result and go to related states. -/
def Tracks (R : σ → σ → Prop) (act act' : Act σ α) : Prop :=
  ∀ s t, R s t →
    R (run act s).state (run act' t).state ∧ (run act s).result = (run act' t).result

namespace Tracks

variable {R : σ → σ → Prop}

/-- Operations that leave the state alone track each other where they give one result. -/
theorem of_state_eq {act act' : Act σ α} (h : ∀ s, (run act s).state = s)
    (h' : ∀ s, (run act' s).state = s)
    (hresult : ∀ s t, R s t → (run act s).result = (run act' t).result) : Tracks R act act' := by
  intro s t hst
  rw [h s, h' t]
  exact ⟨hst, hresult s t hst⟩

theorem of_pure (a : α) : Tracks R (pure a : Act σ α) (pure a) :=
  of_state_eq (fun _ => rfl) (fun _ => rfl) fun _ _ _ => rfl

theorem of_throw (failure : Failure) :
    Tracks R (throw failure : Act σ α) (throw failure) :=
  of_state_eq (fun _ => rfl) (fun _ => rfl) fun _ _ _ => rfl

theorem of_ofExcept (e : Except Failure α) : Tracks R (ofExcept e : Act σ α) (ofExcept e) :=
  of_state_eq (fun _ => by simp) (fun _ => by simp) fun _ _ _ => by simp

/-- What is reported makes no difference. -/
theorem of_notify (notices notices' : List Notice) :
    Tracks R (notify notices : Act σ Unit) (notify notices') :=
  of_state_eq (fun _ => rfl) (fun _ => rfl) fun _ _ _ => rfl

/-- Nor does it make a difference to which sink, or whether that fails. -/
theorem of_deliver (sink sink' : Sink) (event event' : Event) :
    Tracks R (deliver sink event : Act σ Unit) (deliver sink' event') :=
  of_state_eq (fun _ => by simp) (fun _ => by simp) fun _ _ _ => by simp

theorem of_lift {act act' : Traced α} (h : answer act = answer act') :
    Tracks R (lift act : Act σ α) (lift act') :=
  of_state_eq (fun _ => rfl) (fun _ => rfl) fun _ _ _ => h

/-- Answers that differ may be handed on, if what goes on from them does not look at the difference. -/
theorem lift_bind {γ : Type} {act act' : Traced α} (f : α → γ)
    (h : (answer act).map f = (answer act').map f) {next next' : α → Act σ β}
    (hnext : ∀ a a', f a = f a' → Tracks R (next a) (next' a')) :
    Tracks R (lift act >>= next) (lift act' >>= next') := by
  intro s t hst
  rw [state_bind, state_bind, result_bind, result_bind]
  simp only [run_lift, result_run_unit]
  cases hact : answer act with
  | error failure =>
      rw [hact] at h
      cases hact' : answer act' with
      | error failure' =>
          rw [hact'] at h
          obtain rfl := Except.error.inj h
          exact ⟨hst, rfl⟩
      | ok a' =>
          rw [hact'] at h
          cases h
  | ok a =>
      rw [hact] at h
      cases hact' : answer act' with
      | error failure' =>
          rw [hact'] at h
          cases h
      | ok a' =>
          rw [hact'] at h
          exact hnext a a' (Except.ok.inj h) s t hst

theorem of_attempt {act act' : Act σ α} (h : Tracks R act act') :
    Tracks R (attempt act) (attempt act') := fun s t hst =>
  ⟨(h s t hst).1, congrArg Except.ok (h s t hst).2⟩

theorem of_modify {f f' : σ → σ} (h : ∀ s t, R s t → R (f s) (f' t)) :
    Tracks R (modify f : Act σ Unit) (modify f') :=
  fun s t hst => ⟨h s t hst, rfl⟩

theorem bind {act act' : Act σ α} {next next' : α → Act σ β} (hact : Tracks R act act')
    (hnext : ∀ a, Tracks R (next a) (next' a)) : Tracks R (act >>= next) (act' >>= next') := by
  intro s t hst
  obtain ⟨hstates, hresults⟩ := hact s t hst
  rw [state_bind, state_bind, result_bind, result_bind, ← hresults]
  cases (run act s).result with
  | error failure => exact ⟨hstates, rfl⟩
  | ok a => exact hnext a _ _ hstates

theorem get_bind {next next' : σ → Act σ β} (h : ∀ s t, R s t → Tracks R (next s) (next' t)) :
    Tracks R (get >>= next) (get >>= next') := by
  intro s t hst
  rw [run_get_bind, run_get_bind]
  exact h s t hst s t hst

/-- Operations that track each other do so in turn. -/
theorem of_inTurn {ι : Type} {acts acts' : ι → Act σ α} {is : List ι}
    (h : ∀ i ∈ is, Tracks R (acts i) (acts' i)) :
    Tracks R (inTurn (is.map acts)) (inTurn (is.map acts')) := by
  induction is with
  | nil => exact of_pure []
  | cons i is ih =>
      obtain ⟨hi, his⟩ := List.forall_mem_cons.mp h
      exact hi.bind fun _ => (ih his).bind fun _ => of_pure _

end Tracks

/-! ### What an operation reports -/

/-- All notices that an operation gives have a property. -/
def ReportsOnly (P : Notice → Prop) (act : Act σ α) : Prop :=
  ∀ s, ∀ notice ∈ (run act s).notices, P notice

namespace ReportsOnly

variable {P : Notice → Prop}

theorem of_pure (a : α) : ReportsOnly P (pure a : Act σ α) := fun _ _ h => nomatch h

theorem of_throw (failure : Failure) : ReportsOnly P (throw failure : Act σ α) :=
  fun _ _ h => nomatch h

theorem of_ofExcept (e : Except Failure α) : ReportsOnly P (ofExcept e : Act σ α) := by
  intro s notice h
  rw [run_ofExcept] at h
  cases h

theorem of_notify {notices : List Notice} (h : ∀ notice ∈ notices, P notice) :
    ReportsOnly P (notify notices : Act σ Unit) := fun _ => h

theorem of_lift {act : Traced α} (h : ReportsOnly P act) : ReportsOnly P (lift act : Act σ α) :=
  fun _ => h ()

theorem of_modify (f : σ → σ) : ReportsOnly P (modify f : Act σ Unit) := fun _ _ h => nomatch h

theorem bind {act : Act σ α} {next : α → Act σ β} (hact : ReportsOnly P act)
    (hnext : ∀ a, ReportsOnly P (next a)) : ReportsOnly P (act >>= next) := by
  intro s notice h
  rw [notices_bind, List.mem_append] at h
  rcases h with h | h
  · exact hact s notice h
  · split at h
    · cases h
    · exact hnext _ _ notice h

theorem get_bind {next : σ → Act σ β} (h : ∀ s, ReportsOnly P (next s)) :
    ReportsOnly P (get >>= next) := fun s => by
  rw [run_get_bind]
  exact h s s

end ReportsOnly

end Act

end TypedRecord
