import TypedRecord.Diagnostic
import TypedRecord.Failure

/-!
# TypedRecord.Act

Operations that change a state, report, and may fail.

An `Act σ α` maps a state to an `Outcome`: the state after it, the notices it gave on the way, and
either its answer or the failure that stopped it. The state and the notices survive a failure, which
is what makes questions such as "is a failing write undone?" expressible at all.

`Traced α` is the case without state.
-/

namespace TypedRecord

/-- What comes of an operation. -/
structure Outcome (σ α : Type) where
  state : σ
  notices : List Notice
  result : Except Failure α

/-- An operation on a state. -/
def Act (σ α : Type) : Type := σ → Outcome σ α

namespace Act

variable {σ α β : Type}

/-- Runs an operation. -/
def run (act : Act σ α) (s : σ) : Outcome σ α := act s

/-- The operation that only answers. -/
protected def pure (a : α) : Act σ α := fun s => ⟨s, [], .ok a⟩

/-- One operation after another; the second does not run if the first failed. -/
protected def bind (act : Act σ α) (next : α → Act σ β) : Act σ β := fun s =>
  let first := act s
  match first.result with
  | .error failure => ⟨first.state, first.notices, .error failure⟩
  | .ok a =>
    let second := next a first.state
    ⟨second.state, first.notices ++ second.notices, second.result⟩

instance : Monad (Act σ) where
  pure := Act.pure
  bind := Act.bind

/-- The operation that only fails. -/
def fail (failure : Failure) : Act σ α := fun s => ⟨s, [], .error failure⟩

/-- Catches a failure; what happened before it stays. -/
protected def tryCatch (act : Act σ α) (handler : Failure → Act σ α) : Act σ α := fun s =>
  let first := act s
  match first.result with
  | .ok a => ⟨first.state, first.notices, .ok a⟩
  | .error failure =>
    let second := handler failure first.state
    ⟨second.state, first.notices ++ second.notices, second.result⟩

instance : MonadExceptOf Failure (Act σ) where
  throw := fail
  tryCatch := Act.tryCatch

instance : MonadStateOf σ (Act σ) where
  get := fun s => ⟨s, [], .ok s⟩
  set s := fun _ => ⟨s, [], .ok ()⟩
  modifyGet f := fun s => let (a, s') := f s; ⟨s', [], .ok a⟩

/-- Reports some notices. -/
def notify (notices : List Notice) : Act σ Unit := fun s => ⟨s, notices, .ok ()⟩

/-- Writes a line to the log. -/
def log (level : LogLevel) (source : LogSource) (message : String) : Act σ Unit :=
  notify [.logged ⟨level, source, message⟩]

/-- Emits an event to a sink. A broken sink fails. -/
def emit (sink : Sink) (event : Event) : Act σ Unit :=
  match sink with
  | .none => Act.pure ()
  | .collecting => notify [.collected event]
  | .logging => log event.severity.level .diagnostics event.format
  | .broken => fail .sinkDown

/-- Delivers an event to a sink. If the sink fails, that is logged and goes no further. -/
def deliver (sink : Sink) (event : Event) : Act σ Unit :=
  Act.tryCatch (emit sink event) fun failure =>
    log .error .sinks ("Diagnostic sink BrokenSink failed: " ++ failure.message?.getD "")

/-- An answer or a failure that was computed without any operation. -/
def ofExcept : Except Failure α → Act σ α
  | .ok a => Act.pure a
  | .error failure => fail failure

/-- An operation without state, run beside any state. -/
def lift (act : Act Unit α) : Act σ α := fun s =>
  let outcome := act ()
  ⟨s, outcome.notices, outcome.result⟩

/-- An operation on a part of the state. -/
def zoom {τ : Type} (get : σ → τ) (set : τ → σ → σ) (act : Act τ α) : Act σ α := fun s =>
  let outcome := act (get s)
  ⟨set outcome.state s, outcome.notices, outcome.result⟩

/-- An operation whose failure is an answer as well. -/
def attempt (act : Act σ α) : Act σ (Except Failure α) := fun s =>
  let outcome := act s
  ⟨outcome.state, outcome.notices, .ok outcome.result⟩

/-- Operations one after the other, with all their answers. -/
def inTurn : List (Act σ α) → Act σ (List α)
  | [] => pure []
  | act :: rest => do
    let a ← act
    let as ← inTurn rest
    pure (a :: as)

/-! ### What the parts do -/

@[simp] theorem run_pure (a : α) (s : σ) : run (pure a : Act σ α) s = ⟨s, [], .ok a⟩ := rfl

@[simp] theorem run_fail (failure : Failure) (s : σ) :
    run (fail failure : Act σ α) s = ⟨s, [], .error failure⟩ := rfl

@[simp] theorem run_throw (failure : Failure) (s : σ) :
    run (throw failure : Act σ α) s = ⟨s, [], .error failure⟩ := rfl

@[simp] theorem run_get (s : σ) : run (get : Act σ σ) s = ⟨s, [], .ok s⟩ := rfl

@[simp] theorem run_set (s t : σ) : run (set t : Act σ Unit) s = ⟨t, [], .ok ()⟩ := rfl

@[simp] theorem run_modify (f : σ → σ) (s : σ) :
    run (modify f : Act σ Unit) s = ⟨f s, [], .ok ()⟩ := rfl

@[simp] theorem run_notify (notices : List Notice) (s : σ) :
    run (notify notices : Act σ Unit) s = ⟨s, notices, .ok ()⟩ := rfl

/-- Whatever the sink, an event is delivered and the state stays as it is. -/
@[simp] theorem state_deliver (sink : Sink) (event : Event) (s : σ) :
    (run (deliver sink event) s).state = s := by cases sink <;> rfl

@[simp] theorem result_deliver (sink : Sink) (event : Event) (s : σ) :
    (run (deliver sink event) s).result = .ok () := by cases sink <;> rfl

@[simp] theorem run_attempt (act : Act σ α) (s : σ) :
    run (attempt act) s = ⟨(act.run s).state, (act.run s).notices, .ok (act.run s).result⟩ := rfl

@[simp] theorem run_lift (act : Act Unit α) (s : σ) :
    run (lift act) s = ⟨s, (act.run ()).notices, (act.run ()).result⟩ := rfl

/-- A sequence fails where its first part fails. -/
theorem run_bind_error {act : Act σ α} {next : α → Act σ β} {s : σ} {failure : Failure}
    (h : (act.run s).result = .error failure) :
    run (act >>= next) s = ⟨(act.run s).state, (act.run s).notices, .error failure⟩ := by
  show Act.bind act next s = _
  unfold Act.bind
  simp only [run] at h ⊢
  rw [h]

/-- A sequence goes on where its first part ended. -/
theorem run_bind_ok {act : Act σ α} {next : α → Act σ β} {s : σ} {a : α}
    (h : (act.run s).result = .ok a) :
    run (act >>= next) s =
      ⟨((next a).run (act.run s).state).state,
        (act.run s).notices ++ ((next a).run (act.run s).state).notices,
        ((next a).run (act.run s).state).result⟩ := by
  show Act.bind act next s = _
  unfold Act.bind
  simp only [run] at h ⊢
  rw [h]

end Act

/-- An operation that reports and may fail, without state. -/
abbrev Traced (α : Type) : Type := Act Unit α

end TypedRecord
