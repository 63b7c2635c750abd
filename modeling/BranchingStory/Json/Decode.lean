import BranchingStory.Json.Basic
import BranchingStory.Sorted.Table
import BranchingStory.Stat

/-!
# Decoding JSON

Decoders turn JSON values into data or refuse them.  A record is written as an object or, in short,
as an array of its fields in order.

- In an object, members with unknown names are skipped, and a known name given twice is an error.
- In an array there is at most one item for each field, and fields at the end may be missing.
- A field is `required`, or has a default for when it is missing, or is optional: then it may also
  be `null`.
- A table is an object whose names are free; of equal names the last counts.
-/

namespace BranchingStory
namespace Json

/-! ## Plain values -/

/-- A text. -/
def asText? : Json → Option String
  | .text s => some s
  | _ => none

/-- A whole number of 32 bits. -/
def asAmount? : Json → Option Amount
  | .number (.integer n) => Amount.ofInt? n
  | _ => none

/-- A floating-point number. -/
def asFloat? : Json → Option Float
  | .number n => n.toFloat?
  | _ => none

/-- A list. -/
def asList? {α : Type} (item : Json → Option α) : Json → Option (List α)
  | .array items => items.mapM item
  | _ => none

/-- A value that may be `null`. -/
def asOption? {α : Type} (value : Json → Option α) : Json → Option (Option α)
  | .null => some none
  | j => (value j).map some

/-- A table. -/
def asTable? {α : Type} (value : Json → Option α) : Json → Option (Table α)
  | .object members =>
      (members.mapM fun member => (value member.2).map fun v => (member.1, v)).map Table.ofList
  | _ => none

/-! ## Fields -/

/-- The value of a field, if the record has it. -/
abbrev Field := Option Json

/-- A field that must be there. -/
def required {α : Type} (value : Json → Option α) (field : Field) : Option α :=
  field.bind value

/-- A field with a value for when it is missing. -/
def withDefault {α : Type} (default : α) (value : Json → Option α) : Field → Option α
  | some j => value j
  | none => some default

/-- A field that may be missing or `null`. -/
def optional {α : Type} (value : Json → Option α) : Field → Option (Option α) :=
  withDefault none (asOption? value)

/-! ## Records -/

/-- The members of an object whose name is one of a few. -/
def membersNamed (names : List String) (members : List (String × Json)) : List Json :=
  (members.filter fun member => names.contains member.1).map Prod.snd

/-- The field with one of a few names, unless it is given twice. -/
def field? (members : List (String × Json)) (names : List String) : Option Field :=
  match membersNamed names members with
  | [] => some none
  | [j] => some (some j)
  | _ => none

/-- The fields of an object.  Each field has one name or several. -/
def objectFields? (names : List (List String)) (members : List (String × Json)) :
    Option (List Field) :=
  names.mapM (field? members)

/-- The fields of a record. -/
def fields? (names : List (List String)) : Json → Option (List Field)
  | .object members => objectFields? names members
  | .array items =>
      if items.length ≤ names.length then
        some (items.map some ++ List.replicate (names.length - items.length) none)
      else none
  | _ => none

/-! ## Reading to the end -/

/-- Whether every part of a value can be read and nesting stays within a bound.  Values that are
only skipped need not be readable. -/
def isReadable : Nat → Json → Bool
  | _, .null | _, .bool _ | _, .text _ => true
  | _, .number n => n.toFloat?.isSome
  | 0, .array _ | 0, .object _ => false
  | depth + 1, .array items => items.all fun item => isReadable depth item
  | depth + 1, .object members => members.all fun member => isReadable depth member.2
  | _, .garbled => false

/-- Nesting of values that are read to the end stays below this bound. -/
def maxNesting : Nat := 127

end Json
end BranchingStory
