import BranchingStory.Condition.Syntax
import BranchingStory.Json.Basic

/-!
# Outlines of conditions

The outline of an expression shows its tree: an operation is a list in parentheses, headed by the
operator.  Texts stand between quotes as in JSON, and numbers have the fewest digits that read back.
-/

namespace BranchingStory
namespace Condition

/-- A value in an outline. -/
def Value.outline : Value → String
  | number x => numberText x
  | text s => Json.writeText s
  | truth b => if b then "true" else "false"

/-- A symbol in an outline. -/
def Symbol.outline : Symbol → String
  | .stat x => x.key
  | .location => "location"
  | .flagCount => "flags.length"

/-- The head of an operation on one value. -/
def UnaryOp.outline : UnaryOp → String
  | not => "!"
  | negate => "neg"

/-- The head of an operation on two values. -/
def BinaryOp.outline : BinaryOp → String
  | or => "||"
  | and => "&&"
  | equal => "=="
  | different => "!="
  | less => "<"
  | atMost => "<="
  | greater => ">"
  | atLeast => ">="
  | add => "+"
  | subtract => "-"
  | multiply => "*"
  | divide => "/"
  | modulo => "%"

/-- The outline of an expression. -/
def Expr.outline : Expr → String
  | literal v => v.outline
  | symbol x => x.outline
  | unary op operand => "(" ++ op.outline ++ " " ++ operand.outline ++ ")"
  | binary op left right =>
      "(" ++ op.outline ++ " " ++ left.outline ++ " " ++ right.outline ++ ")"
  | hasFlag name => "(has " ++ name.outline ++ ")"

end Condition
end BranchingStory
