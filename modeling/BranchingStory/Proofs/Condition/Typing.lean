import BranchingStory.Proofs.Condition.Failures

/-!
# Kinds of expressions

The operands of an operation have to be of the right kinds, and from these follows the kind of its
value.  `HasKind` has one rule for each form of expression.  An expression that has a kind gives a
value of this kind, or it divides by zero: values that do not go together never meet.

Other expressions may fail, but they too have at most one kind of value, whatever the playthrough.
Only a division or a remainder divides by zero.

Main results:

- `HasKind.isSound_eval`: an expression of a kind gives a value of this kind, or it divides by zero.
- `Expr.kind_of_eval`: all values of an expression are of one kind.
- `Expr.divides_of_eval`: without a division or a remainder nothing divides by zero.
- `Expr.eval_respects_kinds`: all of this, and that evaluation finds no fault in the text.
-/

namespace BranchingStory
namespace Condition

variable {s : Playthrough} {a b : Value} {kind : Kind}

/-! ## The rules -/

/-- Numbers and texts have an order and can be added; truth values cannot. -/
def Kind.IsOrdered (kind : Kind) : Prop :=
  kind = .number ∨ kind = .text

/-- The kinds that an operation on two values takes, and the kind that it gives. -/
inductive BinaryOp.Takes : BinaryOp → Kind → Kind → Kind → Prop
  | or (left right : Kind) : Takes .or left right .truth
  | and (left right : Kind) : Takes .and left right .truth
  | equal (left right : Kind) : Takes .equal left right .truth
  | different (left right : Kind) : Takes .different left right .truth
  | less {kind : Kind} (h : kind.IsOrdered) : Takes .less kind kind .truth
  | atMost {kind : Kind} (h : kind.IsOrdered) : Takes .atMost kind kind .truth
  | greater {kind : Kind} (h : kind.IsOrdered) : Takes .greater kind kind .truth
  | atLeast {kind : Kind} (h : kind.IsOrdered) : Takes .atLeast kind kind .truth
  | add {kind : Kind} (h : kind.IsOrdered) : Takes .add kind kind kind
  | subtract : Takes .subtract .number .number .number
  | multiply : Takes .multiply .number .number .number
  | divide : Takes .divide .number .number .number
  | modulo : Takes .modulo .number .number .number

/-- The expression is of a kind. -/
inductive HasKind : Expr → Kind → Prop
  | literal (v : Value) : HasKind (.literal v) v.kind
  | stat (stat : Stat) : HasKind (.symbol (.stat stat)) .number
  | flagCount : HasKind (.symbol .flagCount) .number
  | location : HasKind (.symbol .location) .text
  | not {operand : Expr} {kind : Kind} (h : HasKind operand kind) :
      HasKind (.unary .not operand) .truth
  | negate {operand : Expr} (h : HasKind operand .number) : HasKind (.unary .negate operand) .number
  | binary {op : BinaryOp} {left right : Expr} {ofLeft ofRight kind : Kind}
      (htakes : op.Takes ofLeft ofRight kind) (hleft : HasKind left ofLeft)
      (hright : HasKind right ofRight) : HasKind (.binary op left right) kind
  | hasFlag {name : Expr} (h : HasKind name .text) : HasKind (.hasFlag name) .truth

/-- The result is a value of a kind, or a division by zero. -/
def IsSound (kind : Kind) (result : Except Error Value) : Prop :=
  (∃ v, result = .ok v ∧ v.kind = kind) ∨ result = .error .divisionByZero

/-- A value is a sound result of its kind. -/
theorem Value.isSound (v : Value) : IsSound v.kind (.ok v) :=
  Or.inl ⟨v, rfl, rfl⟩

/-- A value that is a sound result has the kind. -/
theorem IsSound.kind_eq {v : Value} (h : IsSound kind (.ok v)) : v.kind = kind := by
  rcases h with ⟨_, ⟨⟩, hkind⟩ | h
  · exact hkind
  · cases h

/-- A division by zero is sound for every kind. -/
theorem IsSound.error {e : Error} (h : IsSound kind (.error e)) (other : Kind) :
    IsSound other (.error e) := by
  rcases h with ⟨_, h, _⟩ | h
  · cases h
  · exact Or.inr h

/-! ## Expressions of a kind -/

/-- A value of the kind of numbers is a number. -/
theorem exists_number_eq (h : a.kind = .number) : ∃ x, a = .number x := by
  cases a with
  | number x => exact ⟨x, rfl⟩
  | text t | truth p => cases h

/-- A value of the kind of texts is a text. -/
theorem exists_text_eq (h : a.kind = .text) : ∃ t, a = .text t := by
  cases a with
  | text t => exact ⟨t, rfl⟩
  | number x | truth p => cases h

/-- Values of one ordered kind can be compared. -/
theorem isSound_compareBy (numbers : Float → Float → Bool) (texts : String → String → Bool)
    (hordered : a.kind.IsOrdered) (hb : b.kind = a.kind) :
    IsSound .truth (compareBy numbers texts a b) := by
  rcases hordered with ha | ha
  · obtain ⟨x, rfl⟩ := exists_number_eq ha
    obtain ⟨y, rfl⟩ := exists_number_eq hb
    exact (Value.truth (numbers x y)).isSound
  · obtain ⟨s, rfl⟩ := exists_text_eq ha
    obtain ⟨t, rfl⟩ := exists_text_eq hb
    exact (Value.truth (texts s t)).isSound

/-- Arithmetic on numbers gives a number, if it fails for a divisor of zero at most. -/
theorem isSound_arithmetic {f : Float → Float → Except Error Float} (ha : a.kind = .number)
    (hb : b.kind = .number) (hf : ∀ {x y e}, f x y = .error e → e = .divisionByZero) :
    IsSound .number (arithmetic f a b) := by
  obtain ⟨x, rfl⟩ := exists_number_eq ha
  obtain ⟨y, rfl⟩ := exists_number_eq hb
  cases h : f x y with
  | ok z =>
      simp only [arithmetic, h]
      exact (Value.number z).isSound
  | error e =>
      simp only [arithmetic, h, hf h]
      exact Or.inr rfl

/-- What is guarded against a divisor of zero fails in no other way. -/
theorem eq_divisionByZero_of_guarded {x y : Float} {e : Error}
    (h : (if y == 0 then Except.error Error.divisionByZero else .ok x) = .error e) :
    e = .divisionByZero := by
  split at h
  · exact (Except.error.inj h).symm
  · cases h

/-- An operation on values of the kinds that it takes gives one of the kind that it gives. -/
theorem BinaryOp.Takes.isSound_apply {op : BinaryOp}
    (h : op.Takes a.kind b.kind kind) : IsSound kind (op.apply a b) := by
  generalize hleft : a.kind = ofLeft at h
  generalize hright : b.kind = ofRight at h
  cases h with
  | or | and | equal | different => exact (Value.truth _).isSound
  | less hordered | atMost hordered | greater hordered | atLeast hordered =>
      exact isSound_compareBy _ _ (hleft ▸ hordered) (hright.trans hleft.symm)
  | add hordered =>
      rcases hordered with rfl | rfl
      · obtain ⟨x, rfl⟩ := exists_number_eq hleft
        obtain ⟨y, rfl⟩ := exists_number_eq hright
        exact (Value.number (x + y)).isSound
      · obtain ⟨s, rfl⟩ := exists_text_eq hleft
        obtain ⟨t, rfl⟩ := exists_text_eq hright
        exact (Value.text (s ++ t)).isSound
  | subtract | multiply =>
      rw [apply]
      refine isSound_arithmetic hleft hright ?_
      intro x y e h
      cases h
  | divide | modulo => exact isSound_arithmetic hleft hright eq_divisionByZero_of_guarded

/-- An operation of a logical kind that its left operand decides gives a truth value. -/
theorem BinaryOp.Takes.eq_truth {op : BinaryOp} {ofLeft ofRight : Kind}
    (h : op.Takes ofLeft ofRight kind) (hop : op = .or ∨ op = .and) : kind = .truth := by
  rcases hop with rfl | rfl
  · cases h
    rfl
  · cases h
    rfl

/-- An expression of a kind gives a value of this kind, or it divides by zero. -/
theorem HasKind.isSound_eval {expr : Expr} (h : HasKind expr kind) (s : Playthrough) :
    IsSound kind (expr.eval s) := by
  induction h with
  | literal v => exact v.isSound
  | stat stat => exact ((Symbol.stat stat).read s).isSound
  | flagCount => exact (Symbol.flagCount.read s).isSound
  | location => exact (Symbol.location.read s).isSound
  | @not operand _ _ ih =>
      rcases Expr.eval_unary s .not operand with ⟨_, hoperand, hresult⟩ | ⟨v, _, hresult⟩
      · rw [hresult]
        rw [hoperand] at ih
        exact ih.error .truth
      · rw [hresult]
        exact (Value.truth _).isSound
  | @negate operand _ ih =>
      rcases Expr.eval_unary s .negate operand with ⟨_, hoperand, hresult⟩ | ⟨v, hoperand, hresult⟩
      · rw [hresult, ← hoperand]
        exact ih
      · rw [hresult]
        rw [hoperand] at ih
        obtain ⟨x, rfl⟩ := exists_number_eq ih.kind_eq
        exact (Value.number (-x)).isSound
  | @binary op left right _ _ kind htakes _ _ ihleft ihright =>
      rcases Expr.eval_binary s op left right with ⟨_, hleft, hresult⟩ |
        ⟨a, hleft, ⟨hop, p, hresult⟩ | ⟨_, hright, hresult⟩ | ⟨b, hright, hresult⟩⟩
      · rw [hresult]
        rw [hleft] at ihleft
        exact ihleft.error kind
      · rw [hresult, htakes.eq_truth hop]
        exact (Value.truth p).isSound
      · rw [hresult]
        rw [hright] at ihright
        exact ihright.error kind
      · rw [hresult]
        rw [hleft] at ihleft
        rw [hright] at ihright
        rw [← ihleft.kind_eq, ← ihright.kind_eq] at htakes
        exact htakes.isSound_apply
  | @hasFlag name _ ih =>
      rcases Expr.eval_hasFlag s name with ⟨_, hname, hresult⟩ | ⟨flag, _, hresult⟩ |
        ⟨v, hname, hkind, _⟩
      · rw [hresult]
        rw [hname] at ih
        exact ih.error .truth
      · rw [hresult]
        exact (Value.truth _).isSound
      · rw [hname] at ih
        exact absurd ih.kind_eq hkind

/-! ## The kind of every value -/

/-- The kind of the values of an expression, if it has any. -/
def Expr.resultKind : Expr → Kind
  | literal v => v.kind
  | symbol (.stat _) | symbol .flagCount => .number
  | symbol .location => .text
  | unary .not _ => .truth
  | unary .negate _ => .number
  | binary .add left _ => left.resultKind
  | binary .subtract .. | binary .multiply .. | binary .divide .. | binary .modulo .. => .number
  | binary .. => .truth
  | hasFlag _ => .truth

/-- A comparison gives a truth value. -/
theorem kind_of_compareBy {numbers : Float → Float → Bool} {texts : String → String → Bool}
    {v : Value} (h : compareBy numbers texts a b = .ok v) : v.kind = .truth := by
  unfold compareBy at h
  split at h
  · cases h
    rfl
  · cases h
    rfl
  · cases h

/-- Arithmetic gives a number. -/
theorem kind_of_arithmetic {f : Float → Float → Except Error Float} {v : Value}
    (h : arithmetic f a b = .ok v) : v.kind = .number := by
  unfold arithmetic at h
  split at h
  · split at h
    · cases h
      rfl
    · cases h
  · cases h

/-- A sum has the kind of its left operand. -/
theorem kind_of_add {v : Value} (h : BinaryOp.add.apply a b = .ok v) : v.kind = a.kind := by
  cases a <;> cases b <;> cases h <;> rfl

/-- The values of an expression are of one kind. -/
theorem Expr.kind_of_eval {expr : Expr} {v : Value} (h : expr.eval s = .ok v) :
    v.kind = expr.resultKind := by
  induction expr generalizing v with
  | literal w =>
      cases h
      rfl
  | symbol x => cases x <;> (cases h; rfl)
  | unary op operand ih =>
      rcases eval_unary s op operand with ⟨_, _, hresult⟩ | ⟨w, hoperand, hresult⟩
      · cases hresult.symm.trans h
      · have happly : op.apply w = .ok v := hresult.symm.trans h
        cases op with
        | not =>
            cases happly
            rfl
        | negate =>
            cases w with
            | number x =>
                cases happly
                rfl
            | text t | truth p => cases happly
  | binary op left right ihleft ihright =>
      rcases eval_binary s op left right with ⟨_, _, hresult⟩ |
        ⟨a, hleft, ⟨hop, p, hresult⟩ | ⟨_, _, hresult⟩ | ⟨b, _, hresult⟩⟩
      · cases hresult.symm.trans h
      · cases hresult.symm.trans h
        rcases hop with rfl | rfl <;> rfl
      · cases hresult.symm.trans h
      · have happly : op.apply a b = .ok v := hresult.symm.trans h
        cases op with
        | or | and | equal | different =>
            cases happly
            rfl
        | less | atMost | greater | atLeast => exact kind_of_compareBy happly
        | add => exact (kind_of_add happly).trans (ihleft hleft)
        | subtract | multiply =>
            rw [BinaryOp.apply] at happly
            exact kind_of_arithmetic happly
        | divide | modulo => exact kind_of_arithmetic happly
  | hasFlag name ih =>
      rcases eval_hasFlag s name with ⟨_, _, hresult⟩ | ⟨_, _, hresult⟩ | ⟨_, _, _, hresult⟩
      · cases hresult.symm.trans h
      · cases hresult.symm.trans h
        rfl
      · cases hresult.symm.trans h

/-! ## Division by zero -/

/-- Whether a division or a remainder occurs in an expression. -/
def Expr.divides : Expr → Bool
  | literal _ | symbol _ => false
  | unary _ operand => operand.divides
  | binary op left right => op == .divide || op == .modulo || left.divides || right.divides
  | hasFlag name => name.divides

/-- A comparison does not divide. -/
theorem compareBy_ne_divisionByZero (numbers : Float → Float → Bool)
    (texts : String → String → Bool) : compareBy numbers texts a b ≠ .error .divisionByZero := by
  unfold compareBy
  split <;> nofun

/-- Only quotients and remainders divide. -/
theorem BinaryOp.eq_divide_or_eq_modulo {op : BinaryOp}
    (h : op.apply a b = .error .divisionByZero) : op = .divide ∨ op = .modulo := by
  cases op with
  | or | and | equal | different => cases h
  | less | atMost | greater | atLeast => exact absurd h (compareBy_ne_divisionByZero _ _)
  | add | subtract | multiply => cases a <;> cases b <;> cases h
  | divide => exact Or.inl rfl
  | modulo => exact Or.inr rfl

/-- Without a division or a remainder nothing divides by zero. -/
theorem Expr.divides_of_eval {expr : Expr} (h : expr.eval s = .error .divisionByZero) :
    expr.divides = true := by
  induction expr with
  | literal v => cases h
  | symbol x => cases h
  | unary op operand ih =>
      rcases eval_unary s op operand with ⟨_, hoperand, hresult⟩ | ⟨v, _, hresult⟩
      · cases hresult.symm.trans h
        exact ih hoperand
      · have happly : op.apply v = .error .divisionByZero := hresult.symm.trans h
        cases op <;> cases v <;> cases happly
  | binary op left right ihleft ihright =>
      simp only [divides, Bool.or_eq_true, beq_iff_eq]
      rcases eval_binary s op left right with ⟨_, hleft, hresult⟩ |
        ⟨_, _, ⟨_, _, hresult⟩ | ⟨_, hright, hresult⟩ | ⟨_, _, hresult⟩⟩
      · cases hresult.symm.trans h
        exact Or.inl (Or.inr (ihleft hleft))
      · cases hresult.symm.trans h
      · cases hresult.symm.trans h
        exact Or.inr (ihright hright)
      · exact Or.inl (Or.inl (BinaryOp.eq_divide_or_eq_modulo (hresult.symm.trans h)))
  | hasFlag name ih =>
      rcases eval_hasFlag s name with ⟨_, hname, hresult⟩ | ⟨_, _, hresult⟩ | ⟨_, _, _, hresult⟩
      · cases hresult.symm.trans h
        exact ih hname
      · cases hresult.symm.trans h
      · cases hresult.symm.trans h

/-! ## Soundness -/

/-- An expression of a kind gives, in every playthrough, a value of this kind, or it divides by
zero.  Of every expression, of a kind or not: evaluation finds no fault in its text and no unknown
symbol in it, all its values are of one kind, and it divides by zero only if a division or a
remainder occurs in it. -/
theorem Expr.eval_respects_kinds (expr : Expr) :
    (∀ kind, HasKind expr kind → ∀ s, (∃ v, expr.eval s = .ok v ∧ v.kind = kind) ∨
        expr.eval s = .error .divisionByZero) ∧
      (∀ s position fault, expr.eval s ≠ .error (.malformed position fault)) ∧
      (∀ s name, expr.eval s ≠ .error (.unknownSymbol name)) ∧
      (∀ s t v w, expr.eval s = .ok v → expr.eval t = .ok w → v.kind = w.kind) ∧
      ∀ s, expr.eval s = .error .divisionByZero → expr.divides = true := by
  refine ⟨fun kind h s => h.isSound_eval s, ?_, ?_, ?_, fun s h => divides_of_eval h⟩
  · intro s position fault h
    rcases isOfValues_of_eval h with ⟨_, herror⟩ | herror <;> cases herror
  · intro s name h
    rcases isOfValues_of_eval h with ⟨_, herror⟩ | herror <;> cases herror
  · intro s t v w hv hw
    exact (kind_of_eval hv).trans (kind_of_eval hw).symm

/-- Whether the flag of the place is set, or `S / R` is more than one half of the number of flags:
`('AT_' + location) in flags || S / R > flags.length * 0.5`. -/
def placeExpr : Expr :=
  .binary .or
    (.hasFlag (.binary .add (.literal (.text "AT_")) (.symbol .location)))
    (.binary .greater
      (.binary .divide (.symbol (.stat .safety)) (.symbol (.stat .resources)))
      (.binary .multiply (.symbol .flagCount) (.literal (.number 0.5))))

/-- The condition gives a truth value or divides by zero.  It does divide by zero where the flag is
missing, and where the flag is set it does not come to that. -/
theorem eval_respects_kinds_placeExpr :
    HasKind placeExpr .truth ∧
      (∀ s, (∃ v, placeExpr.eval s = .ok v ∧ v.kind = .truth) ∨
        placeExpr.eval s = .error .divisionByZero) ∧
      placeExpr.divides = true ∧
      ∃ s : Playthrough, placeExpr.eval s = .error .divisionByZero ∧
        placeExpr.eval (s.addFlag "AT_River") = .ok (.truth true) := by
  have hkind : HasKind placeExpr .truth :=
    .binary (.or _ _)
      (.hasFlag (.binary (.add (Or.inr rfl)) (.literal (.text "AT_")) .location))
      (.binary (.greater (Or.inl rfl)) (.binary .divide (.stat .safety) (.stat .resources))
        (.binary .multiply .flagCount (.literal (.number 0.5))))
  obtain ⟨hsound, -, -, -, hdivides⟩ := placeExpr.eval_respects_kinds
  have hzero : placeExpr.eval (.start "GATE" "Student" "River" (.uniform 0)) =
      .error .divisionByZero := rfl
  exact ⟨hkind, hsound .truth hkind, hdivides _ hzero, _, hzero, rfl⟩

end Condition
end BranchingStory
