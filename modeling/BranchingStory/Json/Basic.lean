import BranchingStory.Number

/-!
# JSON

Numbers in JSON, JSON values, and their compact text.
-/

namespace BranchingStory

/-!
## Numbers

A JSON number is an integer or a decimal with a fraction or an exponent; minus zero is a decimal.
`Number.toFloat?` turns either into a floating-point number: it keeps as many digits as fit into 64
bits and then multiplies or divides once by a power of ten, so it is within one rounding step of the
exact value.  A number too large for that has no value.
-/

namespace Json

/-- The number `± whole.fraction · 10^exponent`. -/
structure Decimal where
  negative : Bool
  whole : Nat
  fraction : List Nat
  exponent : Int
deriving DecidableEq, Repr

/-- A number as written. -/
inductive Number where
  | integer (n : Int)
  | decimal (d : Decimal)
deriving DecidableEq, Repr

/-! ### The values of numbers -/

/-- The decimal digits of a natural number. -/
def digitsOf (n : Nat) : List Nat :=
  (toString n).toList.map fun c => c.toNat - '0'.toNat

/-- Digits that fit into 64 bits, and the exponent that goes with them. -/
structure Significand where
  digits : Nat
  exponent : Int

namespace Significand

/-- Whether one more digit fits. -/
def fits (s : Significand) (digit : Nat) : Bool :=
  10 * s.digits + digit < UInt64.size

/-- Append digits in front of the point; once a digit does not fit, it and all later ones only
count for the exponent. -/
def appendWhole (s : Significand) : List Nat → Significand
  | [] => s
  | digit :: rest =>
      if s.fits digit then appendWhole { s with digits := 10 * s.digits + digit } rest
      else { s with exponent := s.exponent + (digit :: rest).length }

/-- Append digits behind the point; once a digit does not fit, it and all later ones are dropped. -/
def appendFraction (s : Significand) : List Nat → Significand
  | [] => s
  | digit :: rest =>
      if s.fits digit then
        appendFraction ⟨10 * s.digits + digit, s.exponent - 1⟩ rest
      else s

/-- Scale by a power of ten below `10^(-308)`, in at most `fuel` steps. -/
def scaleDown : Nat → Float → Int → Float
  | 0, _, _ => 0
  | fuel + 1, x, exponent =>
      if exponent < -308 then scaleDown fuel (x / 1e308) (exponent + 308)
      else x / Float.ofScientific 1 false exponent.natAbs

/-- The floating-point number for the digits and the exponent, unless it is too large. -/
def toFloat? (s : Significand) : Option Float :=
  let x := (UInt64.ofNat s.digits).toFloat
  if s.digits = 0 ∨ s.exponent = 0 then some x
  else if s.exponent > 308 then none
  else if s.exponent > 0 then
    let y := x * Float.ofScientific 1 false s.exponent.natAbs
    if y == 1 / 0 then none else some y
  else some (scaleDown 4 x s.exponent)

end Significand

/-- The floating-point number that a JSON number stands for. -/
def Number.toFloat? : Number → Option Float
  | integer n =>
      let magnitude := (Significand.mk 0 0).appendWhole (digitsOf n.natAbs)
      magnitude.toFloat?.map fun x => if n < 0 then -x else x
  | decimal d =>
      let whole := (Significand.mk 0 0).appendWhole (digitsOf d.whole)
      let all := whole.appendFraction d.fraction
      let scaled := { all with exponent := all.exponent + d.exponent }
      scaled.toFloat?.map fun x => if d.negative then -x else x

/-! ### Writing numbers -/

/-- A finite floating-point number with the fewest digits that read back.  Numbers from `10^16` on
and below `10^(-5)` have an exponent. -/
def Number.ofFinite (b : Binary) : Number :=
  if b.mantissa == 0 then .decimal ⟨b.negative, 0, [], 0⟩
  else
    let d := Digits.shortest .even b.mantissa b.exponent
    let digits := digitsOf d.digits
    let point := (digits.length : Int) + d.exponent
    if 0 ≤ d.exponent ∧ point ≤ 16 then
      .decimal ⟨b.negative, d.digits * tenTo d.exponent.toNat, [0], 0⟩
    else if 0 < point ∧ point ≤ 16 then
      let unit := tenTo (-d.exponent).toNat
      .decimal ⟨b.negative, d.digits / unit, digits.drop point.toNat, 0⟩
    else if -5 < point ∧ point ≤ 0 then
      .decimal ⟨b.negative, 0, List.replicate (-point).toNat 0 ++ digits, 0⟩
    else
      .decimal ⟨b.negative, digits.headD 0, digits.tail, point - 1⟩

/-- A floating-point number as a JSON number, if it is finite. -/
def Number.ofFloat? (x : Float) : Option Number :=
  match Binary.ofFloat x with
  | .finite b => some (.ofFinite b)
  | _ => none

/-- The characters of a number. -/
def Number.text : Number → String
  | integer n => toString n
  | decimal d =>
      let sign := if d.negative then "-" else ""
      let fraction := String.join (d.fraction.map toString)
      let mark := if d.exponent = 0 then "" else "e" ++ toString d.exponent
      let point := if d.fraction.isEmpty then (if d.exponent = 0 then ".0" else "") else "."
      sign ++ toString d.whole ++ point ++ fraction ++ mark

end Json

/-!
## Values

Objects keep their members as written, repeated keys included: whether a repetition is an error
depends on what the object stands for.  Values that only skipping can accept are `garbled`.
-/

/-- A JSON value. -/
inductive Json where
  | null
  | bool (b : Bool)
  | number (n : Json.Number)
  | text (s : String)
  | array (items : List Json)
  | object (members : List (String × Json))
  /-- A string with half of a surrogate pair, or an object with such a key. -/
  | garbled
deriving Inhabited

namespace Json

/-- An integer as a JSON value. -/
def int (n : Int) : Json :=
  .number (.integer n)

/-- An array of texts. -/
def texts (l : List String) : Json :=
  .array (l.map .text)

/-- A value that may be absent, written as `null` when it is. -/
def orNull {α : Type} (f : α → Json) : Option α → Json
  | some a => f a
  | none => .null

/-- A text that may be absent. -/
def textOrNull (s : Option String) : Json :=
  orNull .text s

/-!
## Writing

The compact form of a value: no blanks, members in their order, and escapes for quotes, backslashes
and control characters only.
-/

/-- The hexadecimal digit for a number below sixteen. -/
def hexDigit (n : Nat) : Char :=
  "0123456789abcdef".toList.getD n '0'

/-- How a character is written in a JSON string. -/
def writeChar (c : Char) : String :=
  if c = '"' then "\\\""
  else if c = '\\' then "\\\\"
  else if c = '\x08' then "\\b"
  else if c = '\t' then "\\t"
  else if c = '\n' then "\\n"
  else if c = '\x0c' then "\\f"
  else if c = '\r' then "\\r"
  else if c.toNat < 0x20 then
    "\\u00" ++ String.ofList [hexDigit (c.toNat / 16), hexDigit (c.toNat % 16)]
  else c.toString

/-- A JSON string. -/
def writeText (s : String) : String :=
  s.toList.foldl (fun out c => out ++ writeChar c) "\"" ++ "\""

mutual

/-- The compact text of a value. -/
def write : Json → String
  | .null => "null"
  | .bool b => if b then "true" else "false"
  | .number n => n.text
  | .text s => writeText s
  | .array items => "[" ++ writeItems items ++ "]"
  | .object members => "\x7b" ++ writeMembers members ++ "\x7d"
  | .garbled => "null"

/-- The items of an array, separated by commas. -/
def writeItems : List Json → String
  | [] => ""
  | [item] => item.write
  | item :: rest => item.write ++ "," ++ writeItems rest

/-- The members of an object, separated by commas. -/
def writeMembers : List (String × Json) → String
  | [] => ""
  | [(key, value)] => writeText key ++ ":" ++ value.write
  | (key, value) :: rest => writeText key ++ ":" ++ value.write ++ "," ++ writeMembers rest

end

end Json
end BranchingStory
