import BranchingStory.Condition.Eval

/-!
# What evaluation comes to

An operation evaluates its operands and passes the first error on.  Its own result is that of the
operation on the values, unless `||` or `&&` is decided by its left operand.  So an expression fails
for the values that it comes to, and never for its text.

Main results:

- `Expr.eval_unary`, `Expr.eval_binary`, `Expr.eval_hasFlag`: all that evaluation can do at an
  operation.
- `Expr.isOfValues_of_eval`: what can go wrong with an expression.
-/

namespace BranchingStory
namespace Condition

variable {s : Playthrough} {e : Error} {a b : Value}

/-! ## Evaluation of operations -/

namespace Expr

/-- An operation on one value passes on the error of its operand, or is applied to its value. -/
theorem eval_unary (s : Playthrough) (op : UnaryOp) (operand : Expr) :
    (∃ e, operand.eval s = .error e ∧ (unary op operand).eval s = .error e) ∨
      ∃ v, operand.eval s = .ok v ∧ (unary op operand).eval s = op.apply v := by
  cases h : operand.eval s with
  | error e => exact Or.inl ⟨e, rfl, by rw [eval, h]⟩
  | ok v => exact Or.inr ⟨v, rfl, by rw [eval, h]⟩

/-- Either an operand has an error, or `||` or `&&` is decided by its left operand, or the operation
is applied to both values. -/
theorem eval_binary (s : Playthrough) (op : BinaryOp) (left right : Expr) :
    (∃ e, left.eval s = .error e ∧ (binary op left right).eval s = .error e) ∨
      ∃ a, left.eval s = .ok a ∧
        (((op = .or ∨ op = .and) ∧ ∃ p, (binary op left right).eval s = .ok (.truth p)) ∨
          (∃ e, right.eval s = .error e ∧ (binary op left right).eval s = .error e) ∨
          ∃ b, right.eval s = .ok b ∧ (binary op left right).eval s = op.apply a b) := by
  cases hleft : left.eval s with
  | error e => exact Or.inl ⟨e, rfl, by rw [eval, hleft]⟩
  | ok a =>
      refine Or.inr ⟨a, rfl, ?_⟩
      rw [eval, hleft]
      dsimp only
      by_cases hor : op = .or ∧ a.isTrue
      · exact Or.inl ⟨Or.inl hor.1, true, if_pos hor⟩
      · by_cases hand : op = .and ∧ !a.isTrue
        · exact Or.inl ⟨Or.inr hand.1, false, by rw [if_neg hor, if_pos hand]⟩
        · right
          rw [if_neg hor, if_neg hand]
          cases right.eval s with
          | error e => exact Or.inl ⟨e, rfl, rfl⟩
          | ok b => exact Or.inr ⟨b, rfl, rfl⟩

/-- Asking for a flag passes on the error of the name, or finds a text or a value of another
kind. -/
theorem eval_hasFlag (s : Playthrough) (name : Expr) :
    (∃ e, name.eval s = .error e ∧ (hasFlag name).eval s = .error e) ∨
      (∃ flag, name.eval s = .ok (.text flag) ∧
        (hasFlag name).eval s = .ok (.truth (s.hasFlag flag))) ∨
      ∃ v, name.eval s = .ok v ∧ v.kind ≠ .text ∧
        (hasFlag name).eval s = .error (.mismatch (.flagName v.kind)) := by
  cases h : name.eval s with
  | error e => exact Or.inl ⟨e, rfl, by rw [eval, h]⟩
  | ok v =>
      right
      cases v with
      | text flag => exact Or.inl ⟨flag, rfl, by rw [eval, h]⟩
      | number x => exact Or.inr ⟨.number x, rfl, nofun, by rw [eval, h]⟩
      | truth p => exact Or.inr ⟨.truth p, rfl, nofun, by rw [eval, h]⟩

end Expr

/-! ## Failures -/

/-- The error lies in the values that an expression comes to, and not in its text. -/
def Error.IsOfValues (e : Error) : Prop :=
  (∃ fault, e = .mismatch fault) ∨ e = .divisionByZero

/-- An operation on one value fails for the kind of the value. -/
theorem UnaryOp.isOfValues_of_apply {op : UnaryOp} (h : op.apply a = .error e) : e.IsOfValues := by
  cases op with
  | not => cases h
  | negate =>
      cases a with
      | number x => cases h
      | text t => exact Or.inl ⟨_, (Except.error.inj h).symm⟩
      | truth p => exact Or.inl ⟨_, (Except.error.inj h).symm⟩

/-- A comparison fails for the kinds of its values. -/
theorem isOfValues_of_compareBy {numbers : Float → Float → Bool} {texts : String → String → Bool}
    (h : compareBy numbers texts a b = .error e) : e.IsOfValues := by
  unfold compareBy at h
  split at h
  · cases h
  · cases h
  · exact Or.inl ⟨_, (Except.error.inj h).symm⟩

/-- Arithmetic fails for the kinds of its values, or as the operation on numbers does. -/
theorem isOfValues_of_arithmetic {f : Float → Float → Except Error Float}
    (h : arithmetic f a b = .error e) (hf : ∀ {x y e}, f x y = .error e → e.IsOfValues) :
    e.IsOfValues := by
  unfold arithmetic at h
  split at h
  · split at h
    · cases h
    · rename_i hxy
      cases h
      exact hf hxy
  · exact Or.inl ⟨_, (Except.error.inj h).symm⟩

/-- An operation that is guarded against a divisor of zero fails for that divisor. -/
theorem isOfValues_of_guarded {x y : Float}
    (h : (if y == 0 then Except.error Error.divisionByZero else .ok x) = .error e) :
    e.IsOfValues := by
  split at h
  · exact Or.inr (Except.error.inj h).symm
  · cases h

/-- An operation on two values fails for their kinds or for a divisor of zero. -/
theorem BinaryOp.isOfValues_of_apply {op : BinaryOp} (h : op.apply a b = .error e) :
    e.IsOfValues := by
  cases op with
  | or | and | equal | different => cases h
  | less | atMost | greater | atLeast => exact isOfValues_of_compareBy h
  | add =>
      cases a <;> cases b <;> simp only [apply, reduceCtorEq] at h
      all_goals exact Or.inl ⟨_, (Except.error.inj h).symm⟩
  | subtract | multiply =>
      simp only [apply] at h
      exact isOfValues_of_arithmetic h nofun
  | divide | modulo => exact isOfValues_of_arithmetic h isOfValues_of_guarded

/-- An expression without a value has values that do not go together, or it divides by zero. -/
theorem Expr.isOfValues_of_eval {expr : Expr} (h : expr.eval s = .error e) : e.IsOfValues := by
  induction expr generalizing e with
  | literal v => cases h
  | symbol x => cases h
  | unary op operand ih =>
      rcases eval_unary s op operand with ⟨_, hoperand, hresult⟩ | ⟨_, _, hresult⟩
      · cases hresult.symm.trans h
        exact ih hoperand
      · exact UnaryOp.isOfValues_of_apply (hresult.symm.trans h)
  | binary op left right ihleft ihright =>
      rcases eval_binary s op left right with ⟨_, hleft, hresult⟩ |
        ⟨_, _, ⟨_, _, hresult⟩ | ⟨_, hright, hresult⟩ | ⟨_, _, hresult⟩⟩
      · cases hresult.symm.trans h
        exact ihleft hleft
      · cases hresult.symm.trans h
      · cases hresult.symm.trans h
        exact ihright hright
      · exact BinaryOp.isOfValues_of_apply (hresult.symm.trans h)
  | hasFlag name ih =>
      rcases eval_hasFlag s name with ⟨_, hname, hresult⟩ | ⟨_, _, hresult⟩ | ⟨_, _, _, hresult⟩
      · cases hresult.symm.trans h
        exact ih hname
      · cases hresult.symm.trans h
      · cases hresult.symm.trans h
        exact Or.inl ⟨_, rfl⟩

end Condition
end BranchingStory
