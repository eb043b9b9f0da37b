/-!
# TypedRecord.Verdict

What a validation says.

An `Issue` is one failure with everything a reader needs to find it; a `Verdict` is the list of the
failures found, and data is valid exactly when that list is empty.
-/

namespace TypedRecord

/-- How strictly data is held to its schema. Strict data has no undeclared keys and refuses failing
writes; loose data admits undeclared keys and keeps failing writes. -/
inductive Mode
  | strict
  | loose
  deriving DecidableEq, Inhabited, Repr

/-- The word by which a mode is written. -/
def Mode.word : Mode → String
  | strict => "strict"
  | loose => "loose"

/-- The mode written by a word. -/
def Mode.ofWord? : String → Option Mode
  | "strict" => some .strict
  | "loose" => some .loose
  | _ => none

/-- Kinds of failure. -/
inductive IssueKind
  | emptySchema
  | missingField
  | typeMismatch
  | unexpectedField
  | constructionRejected
  deriving DecidableEq, Inhabited, Repr

/-- The word by which a kind of failure is reported. -/
def IssueKind.word : IssueKind → String
  | emptySchema => "empty_schema"
  | missingField => "missing_field"
  | typeMismatch => "type_mismatch"
  | unexpectedField => "unexpected_field"
  | constructionRejected => "construction_rejected"

/-- One step of the way to a failure: a field first, then positions in arrays. -/
inductive PathStep
  | field (name : String)
  | index (i : Nat)
  deriving DecidableEq, Inhabited, Repr

/-- One validation failure. `context` previews the neighbouring fields. -/
structure Issue where
  kind : IssueKind
  field : Option String := none
  expected : Option String := none
  actual : Option String := none
  path : List PathStep := []
  message : String
  context : List (String × String) := []
  deriving DecidableEq, Inhabited, Repr

/-- The outcome of a validation: its failures in the order in which they were found. -/
structure Verdict where
  issues : List Issue
  deriving DecidableEq, Inhabited, Repr

namespace Verdict

/-- The verdict on data without failures. -/
def success : Verdict := ⟨[]⟩

/-- Whether the data is valid. -/
def valid (v : Verdict) : Bool := v.issues.isEmpty

/-- The first failure. -/
def first? (v : Verdict) : Option Issue := v.issues.head?

@[simp] theorem valid_success : success.valid = true := rfl

@[simp] theorem first?_success : success.first? = none := rfl

theorem valid_iff (v : Verdict) : v.valid = true ↔ v.issues = [] := by
  simp [valid, List.isEmpty_iff]

end Verdict

end TypedRecord
