import BranchingStory.Journal

/-!
# What conditions can see

A condition asks for stats, for flags and for the location.  Playthroughs that agree on these look
alike to it, wherever they are and whatever else they remember.

Main results:

- `Condition.Expr.eval_congr`: an expression has one value, or one error, in playthroughs that look
  alike.
- `holds_congr`: so a condition holds in both of them or in neither.
-/

namespace BranchingStory

/-- The playthroughs agree on all that a condition can ask for. -/
structure Playthrough.LooksLike (s t : Playthrough) : Prop where
  stats : s.stats = t.stats
  flags : s.flags = t.flags
  location : s.location = t.location

variable {s t : Playthrough}

/-- Playthroughs that look alike have the same flags. -/
theorem Playthrough.LooksLike.hasFlag_eq (h : s.LooksLike t) : s.hasFlag = t.hasFlag := by
  funext flag
  rw [hasFlag, hasFlag, h.flags]

namespace Condition

/-- A symbol has one value in playthroughs that look alike. -/
theorem Symbol.read_congr (h : s.LooksLike t) (x : Symbol) : x.read s = x.read t := by
  cases x with
  | stat stat => simp only [read, Playthrough.value, h.stats]
  | location => simp only [read, h.location]
  | flagCount => simp only [read, h.flags]

/-- An expression has one value, or one error, in playthroughs that look alike. -/
theorem Expr.eval_congr (h : s.LooksLike t) (e : Expr) : e.eval s = e.eval t := by
  induction e with
  | literal value => rfl
  | symbol x => simp only [eval, Symbol.read_congr h x]
  | unary op operand ih => simp only [eval, ih]
  | binary op left right ihleft ihright => simp only [eval, ihleft, ihright]
  | hasFlag name ih => simp only [eval, ih, h.hasFlag_eq]

/-- The condition written in a text has one result in playthroughs that look alike. -/
theorem test_congr (h : s.LooksLike t) (text : String) : test s text = test t text := by
  unfold test
  cases Expr.parse text with
  | error e => rfl
  | ok expr => simp only [Expr.test, Expr.eval_congr h expr]

end Condition

/-- A condition holds in both of two playthroughs that look alike, or in neither. -/
theorem holds_congr (h : s.LooksLike t) (condition : String) :
    holds s condition = holds t condition := by
  simp only [holds, Condition.test_congr h condition]

end BranchingStory
