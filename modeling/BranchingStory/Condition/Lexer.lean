import BranchingStory.Condition.Syntax

/-!
# Reading tokens

`tokens?` cuts the characters of a condition into tokens and records where each one starts.  Blank
characters separate tokens and are dropped.  Positions count characters.

- A number is a longest run of digits and points with at most one point.
- A name is a longest run of letters, digits and underscores that starts with no digit; only ASCII
  letters and digits count.
- A text stands between two equal quotes; a backslash makes the next character literal.
- Of the operators that match, the longest is taken.
-/

namespace BranchingStory
namespace Condition

/-! ## Character classes -/

/-- Whether the character can be part of a number. -/
def isNumberChar (c : Char) : Bool :=
  c.isDigit || c == '.'

/-- Whether the character can start a name. -/
def isNameStart (c : Char) : Bool :=
  c.isAlpha || c == '_'

/-- Whether the character can be part of a name. -/
def isNameChar (c : Char) : Bool :=
  c.isAlphanum || c == '_'

/-! ## Single tokens -/

/-- The number written by digits and at most one point, rounded to nearest. -/
def numberValue? (lexeme : List Char) : Option Float :=
  let whole := lexeme.takeWhile Char.isDigit
  let fraction := (lexeme.dropWhile Char.isDigit).drop 1
  if fraction.all Char.isDigit then
    some (Float.ofScientific (valueOfDigits (whole ++ fraction)) true fraction.length)
  else
    none

/-- The contents of a text up to its closing quote, and the characters after that quote. -/
def textContents? (quote : Char) : List Char → Option (List Char × List Char)
  | [] => none
  | '\\' :: c :: rest =>
      (textContents? quote rest).map fun (contents, after) => (c :: contents, after)
  | c :: rest =>
      if c = quote then some ([], rest)
      else (textContents? quote rest).map fun (contents, after) => (c :: contents, after)

/-- The longest operator at the start of the characters. -/
def operator? (chars : List Char) : Option Operator :=
  Operator.all.find? fun o => o.spelling.toList.isPrefixOf chars

/-- The token that starts with the first character, and the characters after it. -/
def readToken (first : Char) (rest : List Char) : Except Fault (Token × List Char) :=
  let chars := first :: rest
  if first.isDigit then
    let lexeme := chars.takeWhile isNumberChar
    match numberValue? lexeme with
    | some x => .ok (.number x, chars.dropWhile isNumberChar)
    | none => .error (.badNumber (String.ofList lexeme))
  else if isNameStart first then
    .ok (.name (String.ofList (chars.takeWhile isNameChar)), chars.dropWhile isNameChar)
  else if first = '"' ∨ first = '\'' then
    match textContents? first rest with
    | some (contents, after) => .ok (.text (String.ofList contents), after)
    | none => .error .unterminatedText
  else if first = '(' then .ok (.leftParen, rest)
  else if first = ')' then .ok (.rightParen, rest)
  else if first = '.' then .ok (.dot, rest)
  else
    match operator? chars with
    | some o => .ok (.op o, chars.drop o.spelling.length)
    | none => .error (.strayCharacter first)

/-! ## The whole text -/

/-- The tokens of characters that start at a position.  The fuel bounds the number of characters. -/
def tokensFrom : Nat → Nat → List Char → Except Error (List Placed)
  | 0, _, _ => .ok []
  | _ + 1, _, [] => .ok []
  | fuel + 1, position, first :: rest =>
      if isBlank first then tokensFrom fuel (position + 1) rest
      else
        match readToken first rest with
        | .error fault => .error (.malformed position fault)
        | .ok (token, after) =>
            let next := position + ((first :: rest).length - after.length)
            match tokensFrom fuel next after with
            | .error e => .error e
            | .ok tokens => .ok (⟨position, token⟩ :: tokens)

/-- The tokens of a condition. -/
def tokens? (text : String) : Except Error (List Placed) :=
  tokensFrom text.length 0 text.toList

end Condition
end BranchingStory
