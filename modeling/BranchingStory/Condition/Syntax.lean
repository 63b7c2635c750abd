import BranchingStory.Number
import BranchingStory.Stat
import BranchingStory.Text

/-!
# The language of conditions

The words of the language, the values that it computes with, the syntax trees, and what can be wrong
with a condition.
-/

namespace BranchingStory
namespace Condition

/-!
## Tokens

The words of the condition language: numbers, quoted texts, names, operators and punctuation.
-/

/-- An operator as written. -/
inductive Operator where
  | strictEqual
  | strictDifferent
  | equal
  | different
  | atMost
  | atLeast
  | both
  | either
  | less
  | greater
  | bang
  | plus
  | minus
  | times
  | divide
  | modulo
deriving DecidableEq, Repr

namespace Operator

/-- The characters of the operator. -/
def spelling : Operator → String
  | strictEqual => "==="
  | strictDifferent => "!=="
  | equal => "=="
  | different => "!="
  | atMost => "<="
  | atLeast => ">="
  | both => "&&"
  | either => "||"
  | less => "<"
  | greater => ">"
  | bang => "!"
  | plus => "+"
  | minus => "-"
  | times => "*"
  | divide => "/"
  | modulo => "%"

/-- The operators, longer spellings first. -/
def all : List Operator :=
  [strictEqual, strictDifferent, equal, different, atMost, atLeast, both, either, less, greater,
    bang, plus, minus, times, divide, modulo]

@[simp]
theorem mem_all (o : Operator) : o ∈ all := by
  cases o <;> decide

end Operator

/-- A word of the condition language. -/
inductive Token where
  | number (x : Float)
  | text (s : String)
  | name (s : String)
  | op (o : Operator)
  | leftParen
  | rightParen
  | dot

/-- The token as messages describe it. -/
def Token.describe : Token → String
  | number x => "number " ++ numberText x
  | text s => "string " ++ quoted s
  | name s => "'" ++ s ++ "'"
  | op o => "'" ++ o.spelling ++ "'"
  | leftParen => "'('"
  | rightParen => "')'"
  | dot => "'.'"

/-- The next token, or the end of the condition, as messages describe it. -/
def describeFound : Option Token → String
  | some token => token.describe
  | none => "end of input"

/-- A token that has no other content, on which a parser can insist. -/
inductive Mark where
  | leftParen
  | rightParen
  | dot
deriving DecidableEq, Repr

namespace Mark

/-- The token of the mark. -/
def token : Mark → Token
  | leftParen => .leftParen
  | rightParen => .rightParen
  | dot => .dot

/-- Whether the mark has been found. -/
def isAt : Mark → Option Token → Bool
  | leftParen, some .leftParen | rightParen, some .rightParen | dot, some .dot => true
  | _, _ => false

/-- A mark is found exactly where its token is. -/
theorem isAt_iff {mark : Mark} {found : Option Token} :
    mark.isAt found ↔ found = some mark.token := by
  constructor
  · intro h
    unfold isAt at h
    split at h
    · rfl
    · rfl
    · rfl
    · cases h
  · rintro rfl
    cases mark <;> rfl

end Mark

/-- A token with the number of characters before it. -/
structure Placed where
  position : Nat
  token : Token

/-!
## Values

A condition computes with numbers, texts and truth values.  Any value can stand where a truth value
is asked for: zero, a number that is undefined, the empty text and `false` count as false.
-/

/-- A value that a condition computes with. -/
inductive Value where
  | number (x : Float)
  | text (s : String)
  | truth (b : Bool)

/-- The kind of a value. -/
inductive Kind where
  | number
  | text
  | truth
deriving DecidableEq, Repr

/-- The name of a kind in messages. -/
def Kind.label : Kind → String
  | number => "number"
  | text => "string"
  | truth => "boolean"

namespace Value

/-- The kind of the value. -/
def kind : Value → Kind
  | number _ => .number
  | text _ => .text
  | truth _ => .truth

/-- Whether the value counts as true. -/
def isTrue : Value → Bool
  | number x => x != 0 && x == x
  | text s => !s.isEmpty
  | truth b => b

/-- Equality of values; values of different kinds are different. -/
def equals : Value → Value → Bool
  | number x, number y => x == y
  | text s, text t => s == t
  | truth a, truth b => a == b
  | _, _ => false

/-- The value as messages show it. -/
def display : Value → String
  | number x => numberText x
  | text s => quoted s
  | truth b => if b then "true" else "false"

end Value

/-! ## Trees -/

/-- Something that a condition can read from a playthrough. -/
inductive Symbol where
  | stat (stat : Stat)
  | location
  /-- The number of flags that are set. -/
  | flagCount
deriving DecidableEq, Repr

/-- An operation on one value. -/
inductive UnaryOp where
  | not
  | negate
deriving DecidableEq, Repr

/-- An operation on two values. -/
inductive BinaryOp where
  | or
  | and
  | equal
  | different
  | less
  | atMost
  | greater
  | atLeast
  | add
  | subtract
  | multiply
  | divide
  | modulo
deriving DecidableEq, Repr

/-- A condition as a tree. -/
inductive Expr where
  | literal (value : Value)
  | symbol (symbol : Symbol)
  | unary (op : UnaryOp) (operand : Expr)
  | binary (op : BinaryOp) (left right : Expr)
  /-- Whether the flag named by the operand is set. -/
  | hasFlag (name : Expr)

/-!
## Errors

What can be wrong with a condition: its text is malformed, it asks for a name that does not exist,
it combines values of the wrong kinds, or it divides by zero.
-/

/-- What is wrong with the text of a condition. -/
inductive Fault where
  | badNumber (lexeme : String)
  | unterminatedText
  | strayCharacter (c : Char)
  | leftOver (found : Token)
  | wanted (token : Token) (found : Option Token)
  | wantedFlags (found : Option Token)
  | wantedMember (found : Option Token)
  | wantedValue (found : Option Token)

/-- The wording of a fault. -/
def Fault.message : Fault → String
  | badNumber lexeme => "invalid number '" ++ lexeme ++ "'"
  | unterminatedText => "unterminated string"
  | strayCharacter c => "unexpected character '" ++ c.toString ++ "'"
  | leftOver found => "unexpected " ++ found.describe
  | wanted token found => "expected " ++ token.describe ++ ", found " ++ describeFound found
  | wantedFlags found => "'in' must be followed by 'flags', found " ++ describeFound found
  | wantedMember found => "expected a flags method, found " ++ describeFound found
  | wantedValue found => "expected a value, found " ++ describeFound found

/-- Which kinds of values do not go together. -/
inductive Mismatch where
  | negate (kind : Kind)
  | compare (left right : Kind)
  | add (left right : Kind)
  | arithmetic (left right : Kind)
  | flagName (kind : Kind)
deriving DecidableEq, Repr

/-- The wording of a mismatch. -/
def Mismatch.message : Mismatch → String
  | negate kind => "cannot negate a " ++ kind.label
  | compare left right => "cannot compare " ++ left.label ++ " with " ++ right.label
  | add left right => "cannot add " ++ left.label ++ " and " ++ right.label
  | arithmetic left right => "arithmetic on " ++ left.label ++ " and " ++ right.label
  | flagName kind => "flag name must be a string, got " ++ kind.label

/-- Why a condition has no value. -/
inductive Error where
  | malformed (position : Nat) (fault : Fault)
  | unknownSymbol (name : String)
  | mismatch (fault : Mismatch)
  | divisionByZero

/-- The wording of an error. -/
def Error.message : Error → String
  | malformed position fault => "parse error at " ++ toString position ++ ": " ++ fault.message
  | unknownSymbol name => "unknown symbol '" ++ name ++ "'"
  | mismatch fault => "type mismatch: " ++ fault.message
  | divisionByZero => "division by zero"

end Condition
end BranchingStory
