import BranchingStory.Condition.Parser

/-!
# The grammar of conditions

Which lists of tokens are conditions, and which tree each of them has.  The grammar is stratified by
how strongly operators bind: an operator of a level joins an expression of that level on its left
and one of the next tighter level on its right, so that all operators associate to the left.  A plus
sign in front of an operand and parentheses leave nothing behind in the tree.

The grammar knows nothing of the parser.

Main results:

- `Derives.exists_primary_head`: a primary does not begin with an operator.
- `Continues.level_unique`: a token goes on with expressions of one level only.
-/

namespace BranchingStory
namespace Condition

/-! ## Levels -/

/-- How strongly an expression binds, loosest first. -/
inductive Level where
  | disjunction
  | conjunction
  | equality
  | comparison
  | additive
  | multiplicative
  | unary
  | primary
deriving DecidableEq, Repr

namespace Level

/-- The next tighter level. -/
def tighter? : Level → Option Level
  | disjunction => some conjunction
  | conjunction => some equality
  | equality => some comparison
  | comparison => some additive
  | additive => some multiplicative
  | multiplicative => some unary
  | unary => some primary
  | primary => none

/-- The number of looser levels. -/
def strength : Level → Nat
  | disjunction => 0
  | conjunction => 1
  | equality => 2
  | comparison => 3
  | additive => 4
  | multiplicative => 5
  | unary => 6
  | primary => 7

/-- The next tighter level binds one degree more strongly. -/
theorem strength_of_tighter? {level next : Level} (h : level.tighter? = some next) :
    next.strength = level.strength + 1 := by
  cases level <;> cases h <;> rfl

/-- No level binds more strongly than primaries. -/
theorem strength_le_primary (level : Level) : level.strength ≤ primary.strength := by
  cases level <;> decide

end Level

/-- The operators that join two operands at a level, with their meanings. -/
inductive Joins : Level → Operator → BinaryOp → Prop
  | either : Joins .disjunction .either .or
  | both : Joins .conjunction .both .and
  | equal : Joins .equality .equal .equal
  | strictEqual : Joins .equality .strictEqual .equal
  | different : Joins .equality .different .different
  | strictDifferent : Joins .equality .strictDifferent .different
  | less : Joins .comparison .less .less
  | atMost : Joins .comparison .atMost .atMost
  | greater : Joins .comparison .greater .greater
  | atLeast : Joins .comparison .atLeast .atLeast
  | plus : Joins .additive .plus .add
  | minus : Joins .additive .minus .subtract
  | times : Joins .multiplicative .times .multiply
  | divide : Joins .multiplicative .divide .divide
  | modulo : Joins .multiplicative .modulo .modulo

/-! ## Derivations -/

/-- The tokens make up an expression of a level, which has a tree. -/
inductive Derives : Level → List Token → Expr → Prop
  /-- Every expression of the next tighter level. -/
  | tighter {level next : Level} {tokens : List Token} {expr : Expr}
      (hnext : level.tighter? = some next) (h : Derives next tokens expr) :
      Derives level tokens expr
  /-- Two operands, the left one of the same level. -/
  | operator {level next : Level} {o : Operator} {op : BinaryOp} {tokens others : List Token}
      {left right : Expr} (hop : Joins level o op) (hnext : level.tighter? = some next)
      (hleft : Derives level tokens left) (hright : Derives next others right) :
      Derives level (tokens ++ .op o :: others) (.binary op left right)
  | membership {tokens : List Token} {expr : Expr} (h : Derives .comparison tokens expr) :
      Derives .comparison (tokens ++ [.name "in", .name "flags"]) (.hasFlag expr)
  | not {tokens : List Token} {expr : Expr} (h : Derives .unary tokens expr) :
      Derives .unary (.op .bang :: tokens) (.unary .not expr)
  | negate {tokens : List Token} {expr : Expr} (h : Derives .unary tokens expr) :
      Derives .unary (.op .minus :: tokens) (.unary .negate expr)
  | plus {tokens : List Token} {expr : Expr} (h : Derives .unary tokens expr) :
      Derives .unary (.op .plus :: tokens) expr
  | number (x : Float) : Derives .primary [.number x] (.literal (.number x))
  | text (s : String) : Derives .primary [.text s] (.literal (.text s))
  | true : Derives .primary [.name "true"] (.literal (.truth .true))
  | false : Derives .primary [.name "false"] (.literal (.truth .false))
  | location : Derives .primary [.name "location"] (.symbol .location)
  | stat (stat : Stat) : Derives .primary [.name stat.key] (.symbol (.stat stat))
  | flagCount : Derives .primary [.name "flags", .dot, .name "length"] (.symbol .flagCount)
  | includes {tokens : List Token} {expr : Expr} (h : Derives .disjunction tokens expr) :
      Derives .primary
        ([.name "flags", .dot, .name "includes", .leftParen] ++ (tokens ++ [.rightParen]))
        (.hasFlag expr)
  | parens {tokens : List Token} {expr : Expr} (h : Derives .disjunction tokens expr) :
      Derives .primary (.leftParen :: (tokens ++ [.rightParen])) expr

variable {level next : Level} {tokens : List Token} {expr : Expr} {token : Token}

/-- A primary does not begin with an operator. -/
theorem Derives.exists_primary_head (h : Derives .primary tokens expr) :
    ∃ token others, tokens = token :: others ∧ ∀ o, token ≠ .op o := by
  cases h with
  | tighter hnext _ => cases hnext
  | operator _ hnext _ _ => cases hnext
  | number _ | text _ | true | false | location | stat _ | flagCount => exact ⟨_, _, rfl, nofun⟩
  | includes _ | parens _ => exact ⟨_, _, rfl, nofun⟩

/-! ## Tokens that go on with an expression -/

/-- A token that comes after an expression of a level goes on with it. -/
inductive Continues : Level → Token → Prop
  | operator {level : Level} {o : Operator} {op : BinaryOp} (hop : Joins level o op) :
      Continues level (.op o)
  | membership : Continues .comparison (.name "in")

/-- A token goes on with expressions of one level only. -/
theorem Continues.level_unique (h : Continues level token) (h' : Continues next token) :
    level = next := by
  cases h with
  | operator hop =>
      cases h' with
      | operator hop' => cases hop <;> cases hop' <;> rfl
  | membership =>
      cases h'
      rfl

/-- A right parenthesis goes on with nothing. -/
theorem not_continues_rightParen : ¬ Continues level .rightParen :=
  nofun

end Condition
end BranchingStory
