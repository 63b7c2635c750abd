import BranchingStory.Condition.Parser
import BranchingStory.Playthrough.Basic

/-!
# Evaluating conditions

Operands are evaluated from left to right, and the first error wins.  `||` and `&&` stop at their
left operand when it decides; all other operators evaluate both sides first.
-/

namespace BranchingStory
namespace Condition

/-- The value of a symbol. -/
def Symbol.read (s : Playthrough) : Symbol → Value
  | .stat x => .number (Float.ofInt (s.value x).toInt)
  | .location => .text s.location
  | .flagCount => .number (Float.ofNat s.flags.size)

/-- Apply an operation to one value. -/
def UnaryOp.apply : UnaryOp → Value → Except Error Value
  | not, v => .ok (.truth (!v.isTrue))
  | negate, .number x => .ok (.number (-x))
  | negate, v => .error (.mismatch (.negate v.kind))

/-- Compare two values of one kind by an order on numbers and one on texts. -/
def compareBy (numbers : Float → Float → Bool) (texts : String → String → Bool) :
    Value → Value → Except Error Value
  | .number x, .number y => .ok (.truth (numbers x y))
  | .text s, .text t => .ok (.truth (texts s t))
  | a, b => .error (.mismatch (.compare a.kind b.kind))

/-- Combine two numbers. -/
def arithmetic (f : Float → Float → Except Error Float) : Value → Value → Except Error Value
  | .number x, .number y =>
      match f x y with
      | .ok z => .ok (.number z)
      | .error e => .error e
  | a, b => .error (.mismatch (.arithmetic a.kind b.kind))

/-- Apply an operation to two values. -/
def BinaryOp.apply : BinaryOp → Value → Value → Except Error Value
  | or, a, b => .ok (.truth (a.isTrue || b.isTrue))
  | and, a, b => .ok (.truth (a.isTrue && b.isTrue))
  | equal, a, b => .ok (.truth (a.equals b))
  | different, a, b => .ok (.truth (!a.equals b))
  | less, a, b => compareBy (fun x y => x < y) (fun s t => s < t) a b
  | atMost, a, b => compareBy (fun x y => x ≤ y) (fun s t => s ≤ t) a b
  | greater, a, b => compareBy (fun x y => x > y) (fun s t => s > t) a b
  | atLeast, a, b => compareBy (fun x y => x ≥ y) (fun s t => s ≥ t) a b
  | add, .number x, .number y => .ok (.number (x + y))
  | add, .text s, .text t => .ok (.text (s ++ t))
  | add, a, b => .error (.mismatch (.add a.kind b.kind))
  | subtract, a, b => arithmetic (fun x y => .ok (x - y)) a b
  | multiply, a, b => arithmetic (fun x y => .ok (x * y)) a b
  | divide, a, b =>
      arithmetic (fun x y => if y == 0 then .error .divisionByZero else .ok (x / y)) a b
  | modulo, a, b =>
      arithmetic (fun x y => if y == 0 then .error .divisionByZero else .ok (remainder x y)) a b

namespace Expr

/-- The value of an expression in a playthrough. -/
def eval (s : Playthrough) : Expr → Except Error Value
  | literal v => .ok v
  | symbol x => .ok (x.read s)
  | unary op operand =>
      match operand.eval s with
      | .error e => .error e
      | .ok v => op.apply v
  | binary op left right =>
      match left.eval s with
      | .error e => .error e
      | .ok a =>
          if op = .or ∧ a.isTrue then .ok (.truth true)
          else if op = .and ∧ !a.isTrue then .ok (.truth false)
          else
            match right.eval s with
            | .error e => .error e
            | .ok b => op.apply a b
  | hasFlag name =>
      match name.eval s with
      | .error e => .error e
      | .ok (.text flag) => .ok (.truth (s.hasFlag flag))
      | .ok v => .error (.mismatch (.flagName v.kind))

/-- Whether an expression counts as true in a playthrough. -/
def test (s : Playthrough) (e : Expr) : Except Error Bool :=
  match e.eval s with
  | .error e => .error e
  | .ok v => .ok v.isTrue

end Expr

/-- Whether the condition written in a text counts as true in a playthrough. -/
def test (s : Playthrough) (text : String) : Except Error Bool :=
  match Expr.parse text with
  | .error e => .error e
  | .ok expr => expr.test s

end Condition
end BranchingStory
