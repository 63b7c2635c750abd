import BranchingStory.Json.Basic
import BranchingStory.Text

/-!
# Reading JSON

A strict reader: no trailing commas, no comments, no leading zeros or plus signs, no control
characters in strings, and nothing but blanks after the value.  Each reading function takes
characters and gives a result with the characters after it, or nothing if the text is malformed.
-/

namespace BranchingStory
namespace Json

/-- Drop blanks. -/
def skipBlank : List Char → List Char
  | c :: rest =>
      if c = ' ' ∨ c = '\n' ∨ c = '\t' ∨ c = '\r' then skipBlank rest else c :: rest
  | [] => []

/-! ## Strings -/

/-- Four hexadecimal digits. -/
def readHex4 : List Char → Option (Nat × List Char)
  | a :: b :: c :: d :: rest => do
      let a ← hexValue? a
      let b ← hexValue? b
      let c ← hexValue? c
      let d ← hexValue? d
      return (((a * 16 + b) * 16 + c) * 16 + d, rest)
  | _ => none

/-- The second half of a surrogate pair, if it follows. -/
def readLowSurrogate : List Char → Option (Nat × List Char)
  | '\\' :: 'u' :: rest =>
      match readHex4 rest with
      | some (n, rest) => if 0xdc00 ≤ n ∧ n < 0xe000 then some (n, rest) else none
      | none => none
  | _ => none

/-- The character of an escape, after the backslash; the character is absent when it is half of a
surrogate pair. -/
def readEscape : List Char → Option (Option Char × List Char)
  | '"' :: rest => some (some '"', rest)
  | '\\' :: rest => some (some '\\', rest)
  | '/' :: rest => some (some '/', rest)
  | 'b' :: rest => some (some '\x08', rest)
  | 'f' :: rest => some (some '\x0c', rest)
  | 'n' :: rest => some (some '\n', rest)
  | 'r' :: rest => some (some '\r', rest)
  | 't' :: rest => some (some '\t', rest)
  | 'u' :: rest =>
      match readHex4 rest with
      | none => none
      | some (n, rest) =>
          if 0xd800 ≤ n ∧ n < 0xdc00 then
            match readLowSurrogate rest with
            | some (low, rest) =>
                some (some (Char.ofNat (0x10000 + (n - 0xd800) * 0x400 + (low - 0xdc00))), rest)
            | none => some (none, rest)
          else if 0xdc00 ≤ n ∧ n < 0xe000 then some (none, rest)
          else some (some (Char.ofNat n), rest)
  | _ => none

/-- The rest of a string after its opening quote.  The characters so far are kept in reverse; they
are absent once half of a surrogate pair was met.  The fuel bounds the number of characters. -/
def readStringFrom : Nat → Option (List Char) → List Char → Option (Option String × List Char)
  | 0, _, _ => none
  | _ + 1, _, [] => none
  | fuel + 1, sofar, c :: rest =>
      if c = '"' then some (sofar.map fun l => String.ofList l.reverse, rest)
      else if c = '\\' then
        match readEscape rest with
        | none => none
        | some (some e, rest) => readStringFrom fuel (sofar.map (e :: ·)) rest
        | some (none, rest) => readStringFrom fuel none rest
      else if c.toNat < 0x20 then none
      else readStringFrom fuel (sofar.map (c :: ·)) rest

/-! ## Numbers -/

/-- A longest run of digits. -/
def readDigits (chars : List Char) : List Nat × List Char :=
  (chars.takeWhile Char.isDigit |>.map fun c => c.toNat - '0'.toNat, chars.dropWhile Char.isDigit)

/-- The number that digits make up. -/
def digitsToNat (digits : List Nat) : Nat :=
  digits.foldl (fun n d => 10 * n + d) 0

/-- The digits in front of the point; a zero stands alone. -/
def readWhole (chars : List Char) : Option (Nat × List Char) :=
  match readDigits chars with
  | ([], _) => none
  | (0 :: _ :: _, _) => none
  | (digits, rest) => some (digitsToNat digits, rest)

/-- The point and the digits behind it, if there is a point. -/
def readFraction : List Char → Option (Option (List Nat) × List Char)
  | '.' :: rest =>
      match readDigits rest with
      | ([], _) => none
      | (digits, rest) => some (some digits, rest)
  | chars => some (none, chars)

/-- The sign of an exponent. -/
def readSign : List Char → Bool × List Char
  | '+' :: rest => (false, rest)
  | '-' :: rest => (true, rest)
  | chars => (false, chars)

/-- The exponent, if there is one. -/
def readExponent : List Char → Option (Option Int × List Char)
  | c :: rest =>
      if c = 'e' ∨ c = 'E' then
        let (negative, rest) := readSign rest
        match readDigits rest with
        | ([], _) => none
        | (digits, rest) =>
            let n : Int := digitsToNat digits
            some (some (if negative then -n else n), rest)
      else some (none, c :: rest)
  | [] => some (none, [])

/-- A number without its sign. -/
def readMagnitude (negative : Bool) (chars : List Char) : Option (Number × List Char) := do
  let (whole, rest) ← readWhole chars
  let (fraction, rest) ← readFraction rest
  let (exponent, rest) ← readExponent rest
  let number :=
    if fraction.isNone && exponent.isNone && !(negative && whole == 0) then
      .integer (if negative then -whole else whole)
    else
      .decimal ⟨negative, whole, fraction.getD [], exponent.getD 0⟩
  return (number, rest)

/-- A number. -/
def readNumber : List Char → Option (Number × List Char)
  | '-' :: rest => readMagnitude true rest
  | chars => readMagnitude false chars

/-! ## Values -/

/-- The members of an object; the object is garbled if one of its keys is. -/
def ofMembers (members : List (Option String × Json)) : Json :=
  match members.mapM fun (key, value) => key.map (·, value) with
  | some members => .object members
  | none => .garbled

mutual

/-- A value.  The fuel bounds the number of characters and values. -/
def readValue : Nat → List Char → Option (Json × List Char)
  | 0, _ => none
  | fuel + 1, chars =>
      match skipBlank chars with
      | 'n' :: 'u' :: 'l' :: 'l' :: rest => some (.null, rest)
      | 't' :: 'r' :: 'u' :: 'e' :: rest => some (.bool true, rest)
      | 'f' :: 'a' :: 'l' :: 's' :: 'e' :: rest => some (.bool false, rest)
      | '"' :: rest =>
          match readStringFrom (rest.length + 1) (some []) rest with
          | some (some s, rest) => some (.text s, rest)
          | some (none, rest) => some (.garbled, rest)
          | none => none
      | '[' :: rest =>
          match skipBlank rest with
          | ']' :: rest => some (.array [], rest)
          | rest => readItems fuel [] rest
      | '{' :: rest =>
          match skipBlank rest with
          | '}' :: rest => some (.object [], rest)
          | rest => readMembers fuel [] rest
      | rest =>
          match readNumber rest with
          | some (n, rest) => some (.number n, rest)
          | none => none

/-- The items of an array up to its end; the items so far are kept in reverse. -/
def readItems : Nat → List Json → List Char → Option (Json × List Char)
  | 0, _, _ => none
  | fuel + 1, sofar, chars =>
      match readValue fuel chars with
      | none => none
      | some (item, rest) =>
          match skipBlank rest with
          | ',' :: rest => readItems fuel (item :: sofar) rest
          | ']' :: rest => some (.array (item :: sofar).reverse, rest)
          | _ => none

/-- The members of an object up to its end; the members so far are kept in reverse. -/
def readMembers : Nat → List (Option String × Json) → List Char → Option (Json × List Char)
  | 0, _, _ => none
  | fuel + 1, sofar, chars =>
      match skipBlank chars with
      | '"' :: rest =>
          match readStringFrom (rest.length + 1) (some []) rest with
          | none => none
          | some (key, rest) =>
              match skipBlank rest with
              | ':' :: rest =>
                  match readValue fuel rest with
                  | none => none
                  | some (value, rest) =>
                      match skipBlank rest with
                      | ',' :: rest => readMembers fuel ((key, value) :: sofar) rest
                      | '}' :: rest => some (ofMembers ((key, value) :: sofar).reverse, rest)
                      | _ => none
              | _ => none
      | _ => none

end

/-- The value that a text holds. -/
def read? (text : String) : Option Json :=
  let chars := text.toList
  match readValue (2 * chars.length + 2) chars with
  | some (value, rest) => if (skipBlank rest).isEmpty then some value else none
  | none => none

end Json
end BranchingStory
