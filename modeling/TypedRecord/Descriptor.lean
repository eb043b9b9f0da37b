import TypedRecord.Text.Blank
import TypedRecord.Text.Fold

/-!
# TypedRecord.Descriptor

Type descriptors: the small type expressions that fields are declared with.

    descriptor := blank* base blank* ("?" blank*)?
    base       := name | "Array<" descriptor ">"

A name is a letter or underscore followed by letters, digits, underscores and dots. What a name
stands for is decided by the name alone, ignoring case: `Array` is the untyped array, `Dictionary`
the untyped mapping, six names are primitives, and every other name refers to a schema. The tree
therefore has two shapes only, and the category is a function on it.

* `Descriptor.parse` reads a descriptor, `Descriptor.text` writes the canonical form.
* `Descriptor.Fault` lists every way in which a text fails to be one.
-/

namespace TypedRecord

open Text

/-- A type descriptor; `nullable` says that null is accepted too. -/
inductive Descriptor
  | named (name : String) (nullable : Bool)
  | array (element : Descriptor) (nullable : Bool)
  deriving DecidableEq, Inhabited, Repr

namespace Descriptor

/-- What a descriptor describes. -/
inductive Category
  | primitive
  | array
  | untypedArray
  | map
  | reference
  deriving DecidableEq, Inhabited, Repr

/-- The word by which a category is reported. -/
def Category.word : Category → String
  | primitive => "primitive"
  | array => "array"
  | untypedArray => "untyped_array"
  | map => "map"
  | reference => "reference"

/-- The names of the primitive types, as they are usually spelled. -/
def primitiveNames : List String := ["String", "int", "float", "bool", "bytes", "Object"]

/-- The usual spelling of the untyped array, and the word that opens a typed one. -/
def arrayName : String := "Array"

/-- The usual spelling of the untyped mapping. -/
def mapName : String := "Dictionary"

/-- What a bare name describes. -/
def categoryOfName (name : String) : Category :=
  if sameFolded name arrayName then .untypedArray
  else if sameFolded name mapName then .map
  else if primitiveNames.any (sameFolded name) then .primitive
  else .reference

/-- What a descriptor describes. -/
def category : Descriptor → Category
  | named name _ => categoryOfName name
  | array _ _ => .array

/-- Whether null is accepted. -/
def nullable : Descriptor → Bool
  | named _ nullable | array _ nullable => nullable

/-- How many typed arrays are around the innermost name. -/
def depth : Descriptor → Nat
  | named _ _ => 0
  | array element _ => element.depth + 1

/-- The element descriptor of a typed array. -/
def element? : Descriptor → Option Descriptor
  | named _ _ => none
  | array element _ => some element

/-- The type's own name. The two containers are named by their usual spelling, everything else as
it was written. -/
def name : Descriptor → String
  | array _ _ => arrayName
  | named name _ =>
    match categoryOfName name with
    | .untypedArray => arrayName
    | .map => mapName
    | _ => name

/-- Whether the descriptor is an array, typed or not. -/
def isArray (d : Descriptor) : Bool := d.category = .array ∨ d.category = .untypedArray

/-- Whether the descriptor names a schema itself. -/
def isReference (d : Descriptor) : Bool := d.category = .reference

/-- The schema named by the descriptor or by its innermost element. -/
def referenced? : Descriptor → Option String
  | named name _ => if categoryOfName name = .reference then some name else none
  | array element _ => element.referenced?

/-- The same descriptor without its nullability. -/
def required : Descriptor → Descriptor
  | named name _ => named name false
  | array element _ => array element false

/-- The mark at the end of a nullable descriptor. -/
def nullMark (nullable : Bool) : String := if nullable then "?" else ""

/-- The canonical text: no blanks, and `Array` spelled as usual before an element. -/
def text : Descriptor → String
  | named name nullable => name ++ nullMark nullable
  | array element nullable => "Array<" ++ element.text ++ ">" ++ nullMark nullable

/-- The canonical text without the mark of nullability. -/
def baseText (d : Descriptor) : String := d.required.text

@[simp] theorem required_nullable (d : Descriptor) : d.required.nullable = false := by
  cases d <;> rfl

@[simp] theorem nullMark_false : nullMark false = "" := rfl

theorem text_eq_baseText (d : Descriptor) : d.text = d.baseText ++ nullMark d.nullable := by
  cases d <;> simp [text, baseText, required, nullable]

/-! ### Reading -/

/-- Why a text is not a descriptor. -/
inductive Fault
  | notText
  | empty
  | markWithoutType
  | repeatedMark
  | unbalancedArray
  | missingElement
  | notAName (base : String)
  deriving DecidableEq, Inhabited, Repr

/-- The wording of a fault. -/
def Fault.message : Fault → String
  | notText => "descriptor must be a string"
  | empty => "empty descriptor"
  | markWithoutType => "nullable marker without a type"
  | repeatedMark => "more than one nullable marker"
  | unbalancedArray => "unbalanced 'Array<...>'"
  | missingElement => "missing array element type"
  | notAName base => "'" ++ base ++ "' is not a type name"

/-- A text together with the reason why it is not a descriptor. -/
structure Malformed where
  shown : String
  fault : Fault
  deriving DecidableEq, Inhabited, Repr

/-- The wording of a refusal. It shows the whole text, whichever part of it is at fault. -/
def Malformed.message (m : Malformed) : String :=
  "Invalid type descriptor '" ++ m.shown ++ "': " ++ m.fault.message

/-- A character a name may start with. -/
def isNameStart (c : Char) : Bool := c.isAlpha || c == '_'

/-- A character a name may go on with. -/
def isNamePart (c : Char) : Bool := c.isAlphanum || c == '_' || c == '.'

/-- Whether a text is a type name. -/
def isName : List Char → Bool
  | [] => false
  | c :: rest => isNameStart c && rest.all isNamePart

/-- Whether a text opens a typed array: the word in any case, directly before its bracket. -/
def opensArray (base : List Char) : Bool := foldCase (base.take 6) == "array<".toList

/-- A trimmed text as its base and whether a mark follows it. -/
def splitMark (raw : List Char) : List Char × Bool :=
  if raw.getLast? = some '?' then (trimBack raw.dropLast, true) else (raw, false)

theorem length_splitMark_le (raw : List Char) : (splitMark raw).1.length ≤ raw.length := by
  unfold splitMark
  split
  · exact Nat.le_trans (length_trimBack_le _) (by simp)
  · simp

/-- The text between the brackets of a typed array. -/
def arrayInner (base : List Char) : List Char := (base.drop 6).dropLast

theorem length_arrayInner_lt {base : List Char} (h : base ≠ []) :
    (arrayInner base).length < base.length := by
  have := List.length_pos_iff.2 h
  simp only [arrayInner, List.length_dropLast, List.length_drop]
  omega

/-- Reads a descriptor from characters. The text is trimmed, one mark is taken from its end, and
what is left is a typed array or a name. -/
def parseChars (s : List Char) : Except Fault Descriptor :=
  let raw := trim s
  if raw = [] then .error .empty
  else
    let base := (splitMark raw).1
    let nullable := (splitMark raw).2
    if _hb : base = [] then .error .markWithoutType
    else if base.getLast? = some '?' then .error .repeatedMark
    else if opensArray base then
      if base.getLast? ≠ some '>' then .error .unbalancedArray
      else if trim (arrayInner base) = [] then .error .missingElement
      else do
        let element ← parseChars (arrayInner base)
        pure (.array element nullable)
    else if isName base then pure (.named (String.ofList base) nullable)
    else .error (.notAName (String.ofList base))
  termination_by s.length
  decreasing_by
    exact Nat.lt_of_lt_of_le (length_arrayInner_lt _hb)
      (Nat.le_trans (length_splitMark_le _) (length_trim_le _))

/-- Reads a descriptor; a refusal carries the whole text. -/
def parse (s : String) : Except Malformed Descriptor :=
  match parseChars s.toList with
  | .ok d => .ok d
  | .error fault => .error ⟨s, fault⟩

/-- Whether a text opens more than `n` typed arrays one inside the other before anything is wrong. -/
def nestsBeyond (n : Nat) (s : List Char) : Bool :=
  let base := (splitMark (trim s)).1
  if opensArray base && base.getLast? = some '>' && trim (arrayInner base) != [] then
    match n with
    | 0 => true
    | n + 1 => nestsBeyond n (arrayInner base)
  else false

/-- How many typed arrays may be opened one inside the other where space is short. -/
def nestingLimit : Nat := 490

end Descriptor

end TypedRecord
