import BranchingStory.Ron.Scan

/-!
# Values of object notation

Values that nobody asks for are read and dropped: a record may have fields that are not known.  They
must be well formed all the same.  Reading functions give the characters after the value.
-/

namespace BranchingStory
namespace Ron

/-! ## Extensions -/

/-- The extensions that may be switched on. -/
def extensionNames : List String :=
  ["unwrap_newtypes", "implicit_some", "unwrap_variant_newtypes"]

/-- The names of extensions up to the end of their list. -/
def extensionsFrom : Nat → List String → List Char → Option (List String × List Char)
  | 0, _, _ => none
  | fuel + 1, sofar, chars => do
      let (name, rest) ← identifier? chars
      if !extensionNames.contains name then none
      let (comma, rest) ← skipComma rest
      if startsInName rest then
        if comma then extensionsFrom fuel (name :: sofar) rest else none
      else
        return (name :: sofar, ← skip rest)

/-- Take words with blanks after each. -/
def takeAll : List String → List Char → Option (List Char)
  | [], chars => some chars
  | word :: words, chars => do takeAll words (← skip (← take? word chars))

/-- The extensions switched on in front of a value; `fuel` bounds the number of their lists. -/
def extensions : Nat → List String → List Char → Option (List String × List Char)
  | 0, _, _ => none
  | fuel + 1, sofar, chars => do
      match ← skip chars with
      | '#' :: rest =>
          let rest ← takeAll ["#", "!", "[", "enable", "("] ('#' :: rest)
          let (names, rest) ← extensionsFrom (rest.length + 1) sofar rest
          extensions fuel names (← takeAll [")", "]"] rest)
      | rest => return (sofar, rest)

/-! ## Numbers -/

/-- Whether a character can be part of a number with a fraction or an exponent. -/
def isFloatChar (c : Char) : Bool :=
  c.isDigit || c == 'e' || c == 'E' || c == '.' || c == '+' || c == '-' || c == '_'

/-- The characters without a sign in front. -/
def dropSign : List Char → List Char
  | '+' :: rest | '-' :: rest => rest
  | chars => chars

/-- Whether the characters are an exponent, or nothing. -/
def isExponent : List Char → Bool
  | [] => true
  | c :: rest =>
      let digits := dropSign rest
      (c == 'e' || c == 'E') && !digits.isEmpty && digits.all Char.isDigit

/-- Whether the characters are a number: digits with at most one point among them, and perhaps an
exponent. -/
def isFloat (lexeme : List Char) : Bool :=
  let chars := dropSign lexeme
  let whole := chars.takeWhile Char.isDigit
  match chars.dropWhile Char.isDigit with
  | '.' :: rest =>
      let fraction := rest.takeWhile Char.isDigit
      !(whole.isEmpty && fraction.isEmpty) && isExponent (rest.dropWhile Char.isDigit)
  | rest => !whole.isEmpty && isExponent rest

/-- The characters after a number with a fraction or an exponent. -/
def skipFloat? (chars : List Char) : Option (List Char) :=
  if isFloat (chars.takeWhile isFloatChar) then some (chars.dropWhile isFloatChar) else none

/-- The characters after a number. -/
def skipNumber? (chars : List Char) : Option (List Char) :=
  let magnitude := dropSign chars
  let float := (magnitude.takeWhile isFloatChar).length
  let integer := (magnitude.takeWhile isIntegerChar).length
  if float > integer then skipFloat? chars
  else
    match word64? magnitude with
    | some (_, rest) => some rest
    | none => skipFloat? chars

/-! ## Any value -/

/-- Whether a record, given by the characters after its parenthesis, has named fields. -/
def hasFieldNames? (chars : List Char) : Option Bool :=
  match identifier? chars with
  | none => some false
  | some (_, rest) => do
      match ← skip rest with
      | c :: _ => return c == ':'
      | [] => none

mutual

/-- The characters after a value.  The fuel bounds the number of characters and values. -/
def skipValue (implicitSome : Bool) : Nat → List Char → Option (List Char)
  | 0, _ => none
  | fuel + 1, chars =>
      if let some rest := takeWord? "true" chars then some rest
      else if let some rest := takeWord? "false" chars then some rest
      else if let some rest := takeWord? "Some" chars then do
        match ← skip rest with
        | '(' :: inner => do
            let rest ← skipValue implicitSome fuel (← skip inner)
            let (_, rest) ← skipComma rest
            take? ")" rest
        | rest => if implicitSome then skipValue implicitSome fuel rest else none
      else if let some rest := takeWord? "None" chars then some rest
      else if let some rest := take? "()" chars then some rest
      else if let some rest := takeWord? "inf" chars then some rest
      else if let some rest := takeWord? "-inf" chars then some rest
      else if let some rest := takeWord? "NaN" chars then some rest
      else if let some (_, rest) := identifier? chars then do
        match ← skip rest with
        | '(' :: inner => skipRecord implicitSome fuel inner
        | rest => return rest
      else
        match chars with
        | '(' :: inner => skipRecord implicitSome fuel inner
        | '[' :: inner => skipItems implicitSome ']' fuel true inner
        | '\x7b' :: inner => skipEntries implicitSome fuel true inner
        | '"' :: _ | 'r' :: _ => (text? chars).map Prod.snd
        | '\'' :: _ => character? chars
        | c :: _ =>
            if c.isDigit || c == '+' || c == '-' then skipNumber? chars
            else if c == '.' then skipFloat? chars
            else none
        | [] => none

/-- The characters after a record, given those after its opening parenthesis. -/
def skipRecord (implicitSome : Bool) : Nat → List Char → Option (List Char)
  | 0, _ => none
  | fuel + 1, inner => do
      if ← hasFieldNames? (← skip inner) then skipFields implicitSome fuel true inner
      else skipItems implicitSome ')' fuel true inner

/-- The characters after items and their closing mark.  Before each item but the first there is a
comma. -/
def skipItems (implicitSome : Bool) (closing : Char) : Nat → Bool → List Char → Option (List Char)
  | 0, _, _ => none
  | fuel + 1, comma, chars => do
      match ← skip chars with
      | [] => none
      | c :: rest =>
          if c = closing then return rest
          else if !comma then none
          else
            let (comma, rest) ← skipComma (← skipValue implicitSome fuel (c :: rest))
            skipItems implicitSome closing fuel comma rest

/-- The characters after named fields and a closing parenthesis. -/
def skipFields (implicitSome : Bool) : Nat → Bool → List Char → Option (List Char)
  | 0, _, _ => none
  | fuel + 1, comma, chars => do
      match ← skip chars with
      | ')' :: rest => return rest
      | rest =>
          if !comma then none
          else
            let (_, rest) ← identifier? rest
            let rest ← skip (← take? ":" (← skip rest))
            let (comma, rest) ← skipComma (← skipValue implicitSome fuel rest)
            skipFields implicitSome fuel comma rest

/-- The characters after entries of a map and a closing brace. -/
def skipEntries (implicitSome : Bool) : Nat → Bool → List Char → Option (List Char)
  | 0, _, _ => none
  | fuel + 1, comma, chars => do
      match ← skip chars with
      | '\x7d' :: rest => return rest
      | rest =>
          if !comma then none
          else
            let rest ← skipValue implicitSome fuel rest
            let rest ← skip (← take? ":" (← skip rest))
            let (comma, rest) ← skipComma (← skipValue implicitSome fuel rest)
            skipEntries implicitSome fuel comma rest

end

end Ron
end BranchingStory
