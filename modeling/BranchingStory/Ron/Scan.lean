import BranchingStory.Text

/-!
# Words of object notation

The settings of a game are written in RON, an object notation with named records.  This module reads
its smallest parts: blanks and comments, identifiers, whole numbers and texts.  Each reading
function takes characters and gives a result with the characters after it, or nothing if the text
is malformed.
-/

namespace BranchingStory
namespace Ron

/-! ## Blanks and comments -/

/-- Whether a character is a blank. -/
def isSpace (c : Char) : Bool :=
  c == ' ' || c == '\t' || c == '\n' || c == '\r'

/-- The characters after a block comment with some levels of nesting left open. -/
def skipBlock : Nat → List Char → Option (List Char)
  | 0, rest => some rest
  | level + 1, '/' :: '*' :: rest => skipBlock (level + 2) rest
  | level + 1, '*' :: '/' :: rest => skipBlock level rest
  | level + 1, _ :: rest => skipBlock (level + 1) rest
  | _ + 1, [] => none

/-- The characters after blanks and comments.  The fuel bounds the number of comments. -/
def skipFrom : Nat → List Char → Option (List Char)
  | 0, chars => some chars
  | fuel + 1, chars =>
      match chars.dropWhile isSpace with
      | '/' :: '/' :: rest => skipFrom fuel (rest.dropWhile (· != '\n'))
      | '/' :: '*' :: rest => (skipBlock 1 rest).bind (skipFrom fuel)
      | '/' :: _ => none
      | rest => some rest

/-- The characters after blanks and comments. -/
def skip (chars : List Char) : Option (List Char) :=
  skipFrom (chars.length + 1) chars

/-- The characters after a word, if they start with it. -/
def take? (word : String) (chars : List Char) : Option (List Char) :=
  if word.toList.isPrefixOf chars then some (chars.drop word.length) else none

/-- Take a comma with the blanks around it, if there is one. -/
def skipComma (chars : List Char) : Option (Bool × List Char) := do
  match ← skip chars with
  | ',' :: rest => return (true, ← skip rest)
  | rest => return (false, rest)

/-! ## Identifiers -/

/-- Whether a character can start an identifier. -/
def isNameStart (c : Char) : Bool :=
  c.isAlpha || c == '_'

/-- Whether a character can be part of an identifier. -/
def isNameChar (c : Char) : Bool :=
  c.isAlphanum || c == '_'

/-- Whether a character can be part of a raw identifier. -/
def isRawChar (c : Char) : Bool :=
  isNameChar c || c == '.' || c == '+' || c == '-'

/-- Whether the characters go on with a part of an identifier. -/
def startsInName : List Char → Bool
  | c :: _ => isNameChar c
  | [] => false

/-- The characters after a word that stands alone. -/
def takeWord? (word : String) (chars : List Char) : Option (List Char) := do
  let rest ← take? word chars
  if startsInName rest then none else return rest

/-- An identifier.  After the mark `r#` it may have raw characters; elsewhere they must not follow
it.  An `r` in front of a quote begins a text. -/
def identifier? (chars : List Char) : Option (String × List Char) :=
  match chars with
  | ['r'] => none
  | 'r' :: '"' :: _ => none
  | 'r' :: '#' :: rest =>
      let name := rest.takeWhile isRawChar
      if name.isEmpty then none else some (String.ofList name, rest.dropWhile isRawChar)
  | 'r' :: _ => some (String.ofList (chars.takeWhile isNameChar), chars.dropWhile isNameChar)
  | first :: _ =>
      let name := chars.takeWhile isNameChar
      if isNameStart first && (chars.takeWhile isRawChar).length == name.length then
        some (String.ofList name, chars.dropWhile isNameChar)
      else none
  | [] => none

/-! ## Whole numbers -/

/-- Whether a character can be part of a whole number. -/
def isIntegerChar (c : Char) : Bool :=
  (hexValue? c).isSome || c == '_'

/-- The value of digits in a base; underscores do not count. -/
def digitsValue? (base : Nat) (digits : List Char) : Option Nat :=
  (digits.filter (· != '_')).foldlM
    (fun n c => (hexValue? c).bind fun d => if d < base then some (n * base + d) else none) 0

/-- The base that a mark in front of a number gives, and the characters after the mark. -/
def splitBase : List Char → Nat × List Char
  | '0' :: 'x' :: rest => (16, rest)
  | '0' :: 'b' :: rest => (2, rest)
  | '0' :: 'o' :: rest => (8, rest)
  | chars => (10, chars)

/-- A whole number without a sign. -/
def natural? (chars : List Char) : Option (Nat × List Char) := do
  let (base, digits) := splitBase chars
  let lexeme := digits.takeWhile isIntegerChar
  if lexeme.isEmpty || lexeme.head? == some '_' then none
  else return (← digitsValue? base lexeme, digits.dropWhile isIntegerChar)

/-- A whole number of 64 bits without a sign. -/
def word64? (chars : List Char) : Option (Nat × List Char) := do
  let (n, rest) ← natural? chars
  if n < UInt64.size then return (n, rest) else none

/-! ## Texts -/

/-- Up to six hexadecimal digits before a closing brace. -/
def hexBraced? : Nat → Nat → List Char → Option (Nat × List Char)
  | _, n, '\x7d' :: rest => some (n, rest)
  | fuel + 1, n, c :: rest => (hexValue? c).bind fun d => hexBraced? fuel (n * 16 + d) rest
  | _, _, _ => none

/-- The character of an escape, after the backslash. -/
def escape? : List Char → Option (Char × List Char)
  | '\'' :: rest => some ('\'', rest)
  | '"' :: rest => some ('"', rest)
  | '\\' :: rest => some ('\\', rest)
  | 'n' :: rest => some ('\n', rest)
  | 'r' :: rest => some ('\r', rest)
  | 't' :: rest => some ('\t', rest)
  | '0' :: rest => some ('\x00', rest)
  | 'x' :: a :: b :: rest => do return (Char.ofNat ((← hexValue? a) * 16 + (← hexValue? b)), rest)
  | 'u' :: '\x7b' :: '\x7d' :: _ => none
  | 'u' :: '\x7b' :: rest => do
      let (n, rest) ← hexBraced? 6 0 rest
      if n.isValidChar then return (Char.ofNat n, rest) else none
  | _ => none

/-- The rest of a text after its opening quote, with the characters so far in reverse.  The fuel
bounds the number of characters. -/
def textFrom : Nat → List Char → List Char → Option (String × List Char)
  | fuel + 1, sofar, c :: rest =>
      if c = '"' then some (String.ofList sofar.reverse, rest)
      else if c = '\\' then (escape? rest).bind fun (e, rest) => textFrom fuel (e :: sofar) rest
      else textFrom fuel (c :: sofar) rest
  | _, _, _ => none

/-- The rest of a raw text up to a closing mark, with the characters so far in reverse. -/
def rawFrom (closing : List Char) : List Char → List Char → Option (String × List Char)
  | sofar, c :: rest =>
      if closing.isPrefixOf (c :: rest) then
        some (String.ofList sofar.reverse, (c :: rest).drop closing.length)
      else rawFrom closing (c :: sofar) rest
  | _, [] => none

/-- A text: quoted with escapes, or raw between hashes. -/
def text? : List Char → Option (String × List Char)
  | '"' :: rest => textFrom (rest.length + 1) [] rest
  | 'r' :: rest =>
      let hashes := rest.takeWhile (· == '#')
      match rest.dropWhile (· == '#') with
      | '"' :: rest => rawFrom ('"' :: hashes) [] rest
      | _ => none
  | _ => none

/-- A single character between apostrophes, as the characters after it. -/
def character? : List Char → Option (List Char)
  | '\'' :: '\\' :: rest => do
      match ← escape? rest with
      | (_, '\'' :: rest) => return rest
      | _ => none
  | '\'' :: '\'' :: _ => none
  | '\'' :: _ :: '\'' :: rest => some rest
  | _ => none

end Ron
end BranchingStory
