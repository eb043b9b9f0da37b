/-!
# TypedRecord.Text.Terminal

Text for a terminal.

Terminals take colours and the like as *control sequences* inside the text: an escape character, an
opening bracket, parameters and a letter. Where output does not go to a terminal they are left out.
What only begins like one is ordinary text.
-/

namespace TypedRecord.Text

/-- The characters of the parameters of a control sequence. -/
def isControlParameter (c : Char) : Bool := c == ';' || c == '?' || c.isDigit

/-- What follows a control sequence, after its opening bracket. -/
def afterControl? : List Char → Option (List Char)
  | [] => none
  | c :: rest =>
    if isControlParameter c then afterControl? rest
    else if c.isAlpha then some rest
    else none

theorem length_afterControl? {s rest : List Char} (h : afterControl? s = some rest) :
    rest.length < s.length := by
  induction s with
  | nil => simp [afterControl?] at h
  | cons c s ih =>
    simp only [afterControl?] at h
    split at h
    · exact Nat.lt_succ_of_lt (ih h)
    · split at h
      · cases h; simp
      · simp at h

/-- A text without its control sequences. -/
def withoutControls (s : List Char) : List Char :=
  match s with
  | [] => []
  | '\x1b' :: '[' :: s =>
    match h : afterControl? s with
    | some rest =>
      have := length_afterControl? h
      withoutControls rest
    | none => '\x1b' :: withoutControls ('[' :: s)
  | c :: s => c :: withoutControls s
termination_by s.length

/-- A text without its control sequences. -/
def unstyled (s : String) : String := String.ofList (withoutControls s.toList)

end TypedRecord.Text
