import BranchingStory.Proofs.Condition.Places

/-!
# The parser stays inside its tokens

The parser by places does what the parser does, never leaves the list of the tokens and the end, and
ends after so many steps as the list allows for.

The steps are accounted for with the tokens that are left.  A token pays for twenty steps.  A call
that has come to no token yet makes one call for each tighter level and one for what a name or the
word `flags` means, so there are steps that no token has paid for, more of them for a looser level,
but less than twenty.  Whoever calls gets back what has not been spent.  So a call that succeeds
within its budget has taken a token: otherwise there would be twenty steps more than it was given.

Main results:

- `correct_descend`: each call does what the parser does, within its budget.
- `outcome_descendAll`: so does the parser of the whole list.
- `position_le_of_parse`: where errors point.
- `parses_within_tokens`: no call leaves the list, each takes a token, and all of them end.
-/

namespace BranchingStory
namespace Condition

variable {tokens : List Placed} {finish place depth fuel : Nat} {text : String}
  {expr left : Expr} {level next : Level} {token : Token} {o : Outcome Expr}
  {call : Call → Descent Expr} {r : Except Error (Expr × Cursor)}

/-! ## Steps and tokens -/

namespace Call

/-- How many tokens have been taken for a call before it is made: a name stands for one, and so does
an expression that is extended. -/
def taken : Call → Nat
  | .level _ | .member => 0
  | .extend _ _ | .named _ => 1

/-- The steps of a call that no token pays for: at most two for the call and the last round of each
level, and two for what a name means. -/
def unpaid : Call → Nat
  | .level level => 18 - 2 * level.strength
  | .extend _ _ => 1
  | .named _ => 2
  | .member => 1

/-- What a call has left over if it succeeds, as the token that it takes pays for it. -/
def credit (c : Call) : Nat :=
  20 * (1 - c.taken)

/-- What the parser gives for a call. -/
inductive Gives (depth : Nat) : Call → Cursor → Except Error (Expr × Cursor) → Prop
  | level {level : Level} {c : Cursor} :
      Gives depth (.level level) c (parserAt (condition depth) level c)
  | extend {level : Level} {left : Expr} {c : Cursor} {fuel : Nat} (hfuel : c.rest.length ≤ fuel) :
      Gives depth (.extend level left) c
        (extendAll (extensionAt (operandAt (condition depth) level) level) fuel left c)
  | named {name : String} {c : Cursor} :
      Gives depth (.named name) c (Condition.named (condition depth) name c)
  | member {c : Cursor} : Gives depth .member c (flagsMember (condition depth) c)

end Call

/-- The outcome is what the parser gives.  Each token that is left counts for some steps, and what
has been done and what is left stay within a budget. -/
def Outcome.Matches (tokens : List Placed) (finish credit budget : Nat) (o : Outcome Expr) :
    Except Error (Expr × Cursor) → Prop
  | .ok (expr, c) => ∃ place ≤ tokens.length, c = cursorAt tokens finish place ∧
      o.ending = .returned expr place ∧
        o.steps + 20 * (tokens.length - place) + credit ≤ budget
  | .error e => o.ending = .failed e ∧ o.steps ≤ budget

namespace Outcome.Matches

variable {credit credit' budget budget' : Nat}

/-- A larger budget allows the same outcome, and what is left over grows by no more than it does. -/
theorem mono (h : o.Matches tokens finish credit budget r) (hbudget : budget ≤ budget')
    (hcredit : credit' + budget ≤ credit + budget') :
    o.Matches tokens finish credit' budget' r := by
  cases r with
  | error e => exact ⟨h.1, Nat.le_trans h.2 hbudget⟩
  | ok result =>
      obtain ⟨expr, c⟩ := result
      obtain ⟨place, hplace, hc, hending, hsteps⟩ := h
      exact ⟨place, hplace, hc, hending, by omega⟩

/-- Steps that have been made before. -/
theorem delay (h : o.Matches tokens finish credit budget r) (steps : Nat) :
    (⟨o.ending, steps + o.steps⟩ : Outcome Expr).Matches tokens finish credit (steps + budget)
      r := by
  cases r with
  | error e => exact ⟨h.1, Nat.add_le_add_left h.2 _⟩
  | ok result =>
      obtain ⟨expr, c⟩ := result
      obtain ⟨place, hplace, hc, hending, hsteps⟩ := h
      exact ⟨place, hplace, hc, hending, by dsimp only; omega⟩

/-- Going on after a call, with what the call has left over. -/
theorem andThen {f : Expr → Descent Expr} {g : Expr → Cursor → Except Error (Expr × Cursor)}
    (unpaid : Nat) (h : o.Matches tokens finish credit budget r) (hbudget : budget ≤ budget')
    (hpaid : budget + unpaid ≤ budget' + credit)
    (hnext : ∀ expr place, place ≤ tokens.length →
      20 * (tokens.length - place) + credit ≤ budget →
      ((f expr).outcome place).Matches tokens finish credit'
        (20 * (tokens.length - place) + unpaid) (g expr (cursorAt tokens finish place))) :
    (o.andThen f).Matches tokens finish credit' budget'
      (match r with
      | .error e => .error e
      | .ok (expr, c) => g expr c) := by
  cases r with
  | error e =>
      obtain ⟨hending, hsteps⟩ := h
      have hfailed : o.andThen f = ⟨.failed e, o.steps⟩ := by rw [Outcome.andThen, hending]
      rw [hfailed]
      exact ⟨rfl, Nat.le_trans hsteps hbudget⟩
  | ok result =>
      obtain ⟨expr, c⟩ := result
      obtain ⟨place, hplace, rfl, hending, hsteps⟩ := h
      have hafter : o.andThen f =
          ⟨((f expr).outcome place).ending, o.steps + ((f expr).outcome place).steps⟩ := by
        rw [Outcome.andThen, hending]
      rw [hafter]
      exact ((hnext expr place hplace (by omega)).delay o.steps).mono (by omega) (by omega)

end Outcome.Matches

/-- A call is one step and what its body does. -/
theorem matches_descend_succ {list : List Entry} {c : Call} {credit budget : Nat}
    (h : ((descendBody list (descend list fuel) c).outcome place).Matches tokens finish credit
      budget r) :
    ((descend list (fuel + 1) c).outcome place).Matches tokens finish credit (1 + budget) r :=
  h.delay 1

/-- The calls do what the parser does, if so many of them may stand inside one another. -/
def Correct (tokens : List Placed) (finish fuel : Nat) (call : Call → Descent Expr) : Prop :=
  ∀ ⦃c : Call⦄ ⦃depth place : Nat⦄ ⦃r : Except Error (Expr × Cursor)⦄,
    place ≤ tokens.length → tokens.length - place ≤ depth →
    20 * (tokens.length - place) + c.unpaid ≤ fuel →
    c.Gives depth (cursorAt tokens finish place) r →
    ((call c).outcome place).Matches tokens finish c.credit
      (20 * (tokens.length - place) + c.unpaid) r

/-! ## What one call does -/

/-- A result costs nothing if the tokens that are left are within the budget. -/
theorem matches_returned {credit budget : Nat} (hplace : place ≤ tokens.length)
    (hsteps : 20 * (tokens.length - place) + credit ≤ budget) :
    (⟨.returned expr place, 0⟩ : Outcome Expr).Matches tokens finish credit budget
      (.ok (expr, cursorAt tokens finish place)) :=
  ⟨place, hplace, rfl, rfl, by dsimp only; omega⟩

/-- An error costs nothing. -/
theorem matches_failed {credit budget : Nat} (e : Error) :
    (⟨.failed e, 0⟩ : Outcome Expr).Matches tokens finish credit budget (.error e) :=
  ⟨rfl, Nat.zero_le _⟩

/-- Going on after a mark that the parser insists on. -/
theorem matches_expect {credit budget : Nat} (hplace : place ≤ tokens.length) (mark : Mark)
    {f : Unit → Descent Expr} {g : Cursor → Except Error (Expr × Cursor)}
    (hnext : place + 1 ≤ tokens.length →
      ((f ()).outcome (place + 1)).Matches tokens finish credit budget
        (g (cursorAt tokens finish (place + 1)))) :
    (((expect (entries tokens finish) mark).outcome place).andThen f).Matches tokens finish credit
      budget
      (match take mark (cursorAt tokens finish place) with
      | .error e => .error e
      | .ok c => g c) := by
  rw [outcome_expect hplace, take]
  split
  · rename_i hmark
    rw [advance_cursorAt, placeAfter_of_peek? (Mark.isAt_iff.mp hmark), Descent.andThen_returned]
    exact hnext (lt_of_peek? (Mark.isAt_iff.mp hmark))
  · rw [Descent.andThen_failed]
    exact matches_failed _

section Bodies

variable (hcall : Correct tokens finish fuel call) (hplace : place ≤ tokens.length)
include hcall hplace

/-- A call for a level does what the parser of the level does. -/
theorem matches_level (level : Level) (hdepth : tokens.length - place ≤ depth)
    (hfuel : 20 * (tokens.length - place) + (18 - 2 * level.strength) ≤ fuel) :
    ((call (.level level)).outcome place).Matches tokens finish 20
      (20 * (tokens.length - place) + (18 - 2 * level.strength))
      (parserAt (condition depth) level (cursorAt tokens finish place)) :=
  hcall hplace hdepth hfuel .level

/-- A call for a round of a level does what the extensions of the level do. -/
theorem matches_extend (hdepth : tokens.length - place ≤ depth)
    (hfuel : 20 * (tokens.length - place) + 1 ≤ fuel) {rounds : Nat}
    (hrounds : tokens.length - place ≤ rounds) :
    ((call (.extend level left)).outcome place).Matches tokens finish 0
      (20 * (tokens.length - place) + 1)
      (extendAll (extensionAt (operandAt (condition depth) level) level) rounds left
        (cursorAt tokens finish place)) :=
  hcall hplace hdepth hfuel (.extend (Nat.le_trans (Nat.le_of_eq length_rest_cursorAt) hrounds))

/-- A condition in parentheses, after the left one. -/
theorem matches_nested (hdepth : tokens.length - place < depth)
    (hfuel : 20 * (tokens.length - place) + 18 ≤ fuel) (build : Expr → Expr) :
    (((call (.level .disjunction)).outcome place).andThen fun inner => do
        expect (entries tokens finish) .rightParen
        return build inner).Matches tokens finish 20 (20 * (tokens.length - place) + 18)
      (match condition depth (cursorAt tokens finish place) with
      | .error e => .error e
      | .ok (inner, c) =>
          match take .rightParen c with
          | .error e => .error e
          | .ok c => .ok (build inner, c)) := by
  obtain ⟨depth, rfl⟩ : ∃ less, depth = less + 1 := ⟨depth - 1, by omega⟩
  have hinner : ((call (.level .disjunction)).outcome place).Matches tokens finish 20
      (20 * (tokens.length - place) + 18)
      (condition (depth + 1) (cursorAt tokens finish place)) :=
    matches_level hcall hplace .disjunction (by omega) hfuel
  refine hinner.andThen 0 (Nat.le_refl _) (by omega) fun inner after hafter _ => ?_
  exact matches_expect hafter .rightParen fun hlt => matches_returned hlt (by omega)

/-- One call for a primary does what the parser of primaries does. -/
theorem matches_descendPrimary (hdepth : tokens.length - place ≤ depth)
    (hfuel : 20 * (tokens.length - place) + 3 ≤ fuel) :
    ((descendPrimary (entries tokens finish) call).outcome place).Matches tokens finish 20
      (20 * (tokens.length - place) + 3)
      (primary (condition depth) (cursorAt tokens finish place)) := by
  rw [descendPrimary, Descent.outcome_bind, outcome_peek hplace, Descent.andThen_returned,
    Descent.outcome_bind, outcome_advance hplace, Descent.andThen_returned, primary]
  cases hpeek : (cursorAt tokens finish place).peek? with
  | none => exact matches_failed _
  | some token =>
      have hlt := lt_of_peek? hpeek
      rw [advance_cursorAt, placeAfter_of_peek? hpeek]
      cases token with
      | number _ | text _ => exact matches_returned hlt (by omega)
      | leftParen =>
          exact (matches_nested hcall hlt (by omega) (by omega) id).mono (by omega) (by omega)
      | name name =>
          have hnamed : ((call (.named name)).outcome (place + 1)).Matches tokens finish 0
              (20 * (tokens.length - (place + 1)) + 2)
              (named (condition depth) name (cursorAt tokens finish (place + 1))) :=
            hcall hlt (by omega) (show 20 * (tokens.length - (place + 1)) + 2 ≤ fuel by omega)
              .named
          exact hnamed.mono (by omega) (by omega)
      | op _ | rightParen | dot => exact matches_failed _

/-- One call for an operand does what the parser of operands does. -/
theorem matches_descendUnary (hdepth : tokens.length - place ≤ depth)
    (hfuel : 20 * (tokens.length - place) + 5 ≤ fuel) :
    ((descendUnary (entries tokens finish) call).outcome place).Matches tokens finish 20
      (20 * (tokens.length - place) + 5)
      (unary (condition depth) (cursorAt tokens finish place)) := by
  rw [descendUnary, Descent.outcome_bind, outcome_eatOp hplace, unary_eq]
  cases hfound : (cursorAt tokens finish place).operator?.bind prefixOp? with
  | none =>
      have hprimary : ((call (.level .primary)).outcome place).Matches tokens finish 20
          (20 * (tokens.length - place) + 4)
          (primary (condition depth) (cursorAt tokens finish place)) :=
        matches_level hcall hplace .primary hdepth (by simp only [Level.strength]; omega)
      dsimp only
      rw [Descent.andThen_returned]
      exact hprimary.mono (by omega) (by omega)
  | some build =>
      have hlt := lt_of_operator? hfound
      have hoperand : ((call (.level .unary)).outcome (place + 1)).Matches tokens finish 20
          (20 * (tokens.length - (place + 1)) + 6)
          (unary (condition depth) (cursorAt tokens finish (place + 1))) :=
        matches_level hcall hlt .unary (by omega) (by simp only [Level.strength]; omega)
      dsimp only
      rw [Descent.andThen_returned, advance_cursorAt, placeAfter_of_lt hlt]
      exact hoperand.andThen 20 (by omega) (by omega) fun operand after hafter _ =>
        matches_returned hafter (Nat.le_refl _)

/-- A level begins with an operand of the next tighter one, and goes on with what extends it. -/
theorem matches_descendBody_level (hnext : level.tighter? = some next) (hlevel : level ≠ .unary)
    (hdepth : tokens.length - place ≤ depth)
    (hfuel : 20 * (tokens.length - place) + (17 - 2 * level.strength) ≤ fuel) :
    ((descendBody (entries tokens finish) call (.level level)).outcome place).Matches tokens finish
      20 (20 * (tokens.length - place) + (17 - 2 * level.strength))
      (parserAt (condition depth) level (cursorAt tokens finish place)) := by
  have hbody : descendBody (entries tokens finish) call (.level level) =
      (do let left ← call (.level next); call (.extend level left)) := by
    cases level with
    | unary => exact absurd rfl hlevel
    | primary => cases hnext
    | disjunction | conjunction | equality | comparison | additive | multiplicative =>
        cases hnext
        rfl
  have hstrength : next.strength = level.strength + 1 := Level.strength_of_tighter? hnext
  have hbound : next.strength ≤ 7 := next.strength_le_primary
  have hoperand := matches_level hcall hplace next hdepth (by omega)
  rw [← operandAt_of_tighter? hnext] at hoperand
  rw [hbody, Descent.outcome_bind, parserAt_of_tighter? hnext hlevel, operandThen,
    ← operandAt_of_tighter? hnext]
  -- What the operand has left over pays for the round, and is left over again.
  refine hoperand.andThen 21 (by omega) (by omega) fun left after hafter hspent => ?_
  exact (matches_extend hcall hafter (by omega) (by omega)
    (Nat.le_of_eq length_rest_cursorAt.symm)).mono (by omega) (by omega)

/-- One round of a loop: nothing, or one more operand or `in flags`, and further rounds. -/
theorem matches_descendExtend (hdepth : tokens.length - place ≤ depth)
    (hfuel : 20 * (tokens.length - place) ≤ fuel) {rounds : Nat}
    (hrounds : tokens.length - place ≤ rounds) :
    ((descendExtend (entries tokens finish) call level left).outcome place).Matches tokens finish 0
      (20 * (tokens.length - place))
      (extendAll (extensionAt (operandAt (condition depth) level) level) rounds left
        (cursorAt tokens finish place)) := by
  rw [descendExtend, Descent.outcome_bind, outcome_peek hplace, Descent.andThen_returned]
  split
  · rename_i hin
    have hname := isNamed_iff.mp hin.2
    have hlt := lt_of_peek? hname
    -- There is a token, so the rounds are not used up.
    obtain ⟨rounds, rfl⟩ : ∃ less, rounds = less + 1 := ⟨rounds - 1, by omega⟩
    rw [extendAll, extensionAt_eq, if_pos hin, byMembership_eq hname, Descent.outcome_bind,
      outcome_advance hplace, Descent.andThen_returned, placeAfter_of_lt hlt, advance_cursorAt,
      placeAfter_of_lt hlt, Descent.outcome_bind, outcome_advance hlt, Descent.andThen_returned,
      advance_cursorAt]
    split
    · rename_i hflags
      have hlt' := lt_of_peek? (isNamed_iff.mp hflags)
      rw [placeAfter_of_lt hlt']
      exact (matches_extend hcall hlt' (by omega) (by omega) (by omega)).mono (by omega) (by omega)
    · rw [outcome_failHere placeAfter_le]
      exact matches_failed _
  · rename_i hin
    rw [Descent.outcome_bind, outcome_eatOp hplace]
    cases hfound : (cursorAt tokens finish place).operator?.bind (binaryOp? level) with
    | none =>
        dsimp only
        rw [Descent.andThen_returned, extendAll_of_eq_none]
        · exact matches_returned hplace (by omega)
        · rw [extensionAt_eq, if_neg hin, byOperator_eq, hfound, Option.map_none]
    | some op =>
        have hlt := lt_of_operator? hfound
        obtain ⟨rounds, rfl⟩ : ∃ less, rounds = less + 1 := ⟨rounds - 1, by omega⟩
        have hoperand : ((call (.level (level.tighter?.getD .primary))).outcome (place + 1)).Matches
            tokens finish 20 (20 * (tokens.length - place) - 2)
            (operandAt (condition depth) level (cursorAt tokens finish (place + 1))) :=
          (matches_level hcall hlt _ (by omega) (by omega)).mono (by omega) (by omega)
        dsimp only
        rw [Descent.andThen_returned, Descent.outcome_bind, extendAll_of_operator? hin hfound,
          advance_cursorAt, placeAfter_of_lt hlt]
        exact hoperand.andThen 1 (by omega) (by omega) fun right after hafter hspent =>
          matches_extend hcall hafter (by omega) (by omega) (by omega)

/-- One call for what follows `flags` does what the parser does there. -/
theorem matches_descendMember (hdepth : tokens.length - place ≤ depth)
    (hfuel : 20 * (tokens.length - place) ≤ fuel) :
    ((descendMember (entries tokens finish) call).outcome place).Matches tokens finish 20
      (20 * (tokens.length - place))
      (flagsMember (condition depth) (cursorAt tokens finish place)) := by
  rw [descendMember, Descent.outcome_bind, flagsMember_eq]
  refine matches_expect hplace .dot fun hdot => ?_
  rw [Descent.outcome_bind, outcome_advance hdot, Descent.andThen_returned]
  split
  · rename_i hincludes
    have hlt := lt_of_peek? (isNamed_iff.mp hincludes)
    rw [placeAfter_of_lt hlt, Descent.outcome_bind, advance_cursorAt, placeAfter_of_lt hlt]
    refine matches_expect hlt .leftParen fun hparen => ?_
    exact (matches_nested hcall hparen (by omega) (by omega) .hasFlag).mono (by omega) (by omega)
  · split
    · rename_i hlength
      have hlt := lt_of_peek? (isNamed_iff.mp hlength)
      rw [advance_cursorAt, placeAfter_of_lt hlt]
      exact matches_returned hlt (by omega)
    · rw [advance_cursorAt]
      cases (cursorAt tokens finish (place + 1)).peek? with
      | none =>
          rw [outcome_failHere placeAfter_le]
          exact matches_failed _
      | some token =>
          cases token with
          | name other => exact matches_failed _
          | number _ | text _ | op _ | leftParen | rightParen | dot =>
              rw [outcome_failHere placeAfter_le]
              exact matches_failed _

/-- One call for a name does what the parser does with the name. -/
theorem matches_descendNamed (hdepth : tokens.length - place ≤ depth)
    (hfuel : 20 * (tokens.length - place) + 1 ≤ fuel) (name : String) :
    ((descendNamed call name).outcome place).Matches tokens finish 0
      (20 * (tokens.length - place) + 1)
      (named (condition depth) name (cursorAt tokens finish place)) := by
  rw [descendNamed, named]
  split
  · exact matches_returned hplace (by omega)
  split
  · exact matches_returned hplace (by omega)
  split
  · exact matches_returned hplace (by omega)
  split
  · have hmember : ((call .member).outcome place).Matches tokens finish 20
        (20 * (tokens.length - place) + 1)
        (flagsMember (condition depth) (cursorAt tokens finish place)) :=
      hcall hplace hdepth hfuel .member
    exact hmember.mono (by omega) (by omega)
  · cases Stat.ofKey? name with
    | none => exact matches_failed _
    | some stat => exact matches_returned hplace (by omega)

/-- What one call does, within its budget less the step for the call itself. -/
theorem matches_descendBody {c : Call} {r : Except Error (Expr × Cursor)}
    (hdepth : tokens.length - place ≤ depth)
    (hfuel : 20 * (tokens.length - place) + c.unpaid ≤ fuel + 1)
    (hgives : c.Gives depth (cursorAt tokens finish place) r) :
    ((descendBody (entries tokens finish) call c).outcome place).Matches tokens finish c.credit
      (20 * (tokens.length - place) + c.unpaid - 1) r := by
  cases hgives with
  | @level level =>
      simp only [Call.unpaid] at hfuel ⊢
      by_cases hprimary : level = .primary
      · subst hprimary
        exact matches_descendPrimary hcall hplace hdepth
          (by simp only [Level.strength] at hfuel; omega)
      by_cases hunary : level = .unary
      · subst hunary
        exact matches_descendUnary hcall hplace hdepth
          (by simp only [Level.strength] at hfuel; omega)
      obtain ⟨next, hnext⟩ : ∃ next, level.tighter? = some next := by
        cases level with
        | primary => exact absurd rfl hprimary
        | _ => exact ⟨_, rfl⟩
      have hbound : level.strength ≤ 7 := level.strength_le_primary
      have hbody := matches_descendBody_level hcall hplace hnext hunary hdepth (by omega)
      exact hbody.mono (by omega) (by simp only [Call.credit, Call.taken]; omega)
  | extend hrounds =>
      simp only [Call.unpaid] at hfuel ⊢
      rw [length_rest_cursorAt] at hrounds
      exact matches_descendExtend hcall hplace hdepth (by omega) hrounds
  | named =>
      simp only [Call.unpaid] at hfuel ⊢
      exact matches_descendNamed hcall hplace hdepth (by omega) _
  | member =>
      simp only [Call.unpaid] at hfuel ⊢
      exact matches_descendMember hcall hplace hdepth (by omega)

end Bodies

/-! ## All calls -/

/-- Every call has steps that no token pays for. -/
theorem Call.unpaid_pos (c : Call) : 0 < c.unpaid := by
  cases c with
  | level level => cases level <;> decide
  | extend _ _ | named _ | member => exact Nat.succ_pos _

/-- They are never more than those of a whole condition. -/
theorem Call.unpaid_le (c : Call) : c.unpaid ≤ 18 := by
  cases c with
  | level level => exact Nat.sub_le _ _
  | extend _ _ | named _ | member => simp only [unpaid]; omega

/-- However many calls may stand inside one another, if there are enough of them, each does what
the parser does. -/
theorem correct_descend (tokens : List Placed) (finish fuel : Nat) :
    Correct tokens finish fuel (descend (entries tokens finish) fuel) := by
  induction fuel with
  | zero =>
      intro c depth place r _ _ hfuel
      have := c.unpaid_pos
      omega
  | succ fuel ih =>
      intro c depth place r hplace hdepth hfuel hgives
      have := c.unpaid_pos
      exact (matches_descend_succ (matches_descendBody ih hplace hdepth hfuel hgives)).mono
        (by omega) (by omega)

/-- The parser gives something for every call. -/
theorem Call.exists_gives (c : Call) (depth : Nat) (cursor : Cursor) :
    ∃ r, c.Gives depth cursor r := by
  cases c with
  | level level => exact ⟨_, .level⟩
  | extend level left => exact ⟨_, .extend (Nat.le_refl _)⟩
  | named name => exact ⟨_, .named⟩
  | member => exact ⟨_, .member⟩

/-- The end of a call that began at a place: it has not left the list, and if it succeeds, at least
one token has been taken for it. -/
def Ending.Inside (list : List Entry) (place : Nat) (c : Call) : Ending Expr → Prop
  | .returned _ after => place < after + c.taken ∧ after < list.length
  | .failed _ => True
  | .astray | .unfinished => False

/-- The ending is what the parser gives. -/
def Ending.Agrees (tokens : List Placed) (finish : Nat) (ending : Ending Expr) :
    Except Error (Expr × Cursor) → Prop
  | .ok (expr, c) => ∃ after, ending = .returned expr after ∧ c = cursorAt tokens finish after
  | .error e => ending = .failed e

/-- An outcome that matches what the parser gives ends like it. -/
theorem Outcome.Matches.agrees {credit budget : Nat}
    (h : o.Matches tokens finish credit budget r) : o.ending.Agrees tokens finish r := by
  cases r with
  | error e => exact h.1
  | ok result =>
      obtain ⟨after, -, hcursor, hending, -⟩ := h
      exact ⟨after, hending, hcursor⟩

/-- Its steps are within the budget. -/
theorem Outcome.Matches.steps_le {credit budget : Nat}
    (h : o.Matches tokens finish credit budget r) : o.steps ≤ budget := by
  cases r with
  | error e => exact h.2
  | ok result =>
      obtain ⟨after, -, -, -, hsteps⟩ := h
      omega

/-- What is left of the budget shows that a token has been taken. -/
theorem Outcome.Matches.inside {c : Call} (hplace : place ≤ tokens.length)
    (h : o.Matches tokens finish c.credit (20 * (tokens.length - place) + c.unpaid) r) :
    o.ending.Inside (entries tokens finish) place c := by
  cases r with
  | error e =>
      rw [h.1]
      trivial
  | ok result =>
      obtain ⟨after, hafter, -, hending, hsteps⟩ := h
      have hunpaid := c.unpaid_le
      rw [hending]
      rw [Call.credit] at hsteps
      refine ⟨by omega, ?_⟩
      rw [length_entries]
      exact Nat.lt_succ_of_le hafter

/-- The whole list is taken, or there is an error. -/
theorem outcome_descendAll (hdepth : 20 * (tokens.length + 1) ≤ depth) :
    ((descendAll (entries tokens finish) depth).outcome 0).steps ≤ 20 * (tokens.length + 1) ∧
      ((descendAll (entries tokens finish) depth).outcome 0).ending =
        match ofTokens? tokens finish with
        | .ok expr => .returned expr tokens.length
        | .error e => .failed e := by
  have hparser : ((descend (entries tokens finish) depth (.level .disjunction)).outcome 0).Matches
      tokens finish 20 (20 * tokens.length + 18)
      (condition (tokens.length + 1) (cursorAt tokens finish 0)) :=
    matches_level (correct_descend tokens finish depth) (Nat.zero_le _) .disjunction (Nat.le_refl _)
      (by simp only [Level.strength]; omega)
  rw [descendAll, Descent.outcome_bind, ofTokens?, show (⟨tokens, finish⟩ : Cursor) =
    cursorAt tokens finish 0 from rfl]
  cases hresult : condition (tokens.length + 1) (cursorAt tokens finish 0) with
  | error e =>
      rw [hresult] at hparser
      rw [Outcome.andThen, hparser.1]
      exact ⟨Nat.le_trans hparser.2 (by omega), rfl⟩
  | ok result =>
      obtain ⟨expr, c⟩ := result
      rw [hresult] at hparser
      obtain ⟨after, hafter, rfl, hending, hsteps⟩ := hparser
      rw [Outcome.andThen, hending]
      dsimp only
      rw [Descent.outcome_bind, outcome_peek hafter, Descent.andThen_returned]
      cases hpeek : (cursorAt tokens finish after).peek? with
      | none =>
          have hend : after = tokens.length :=
            Nat.le_antisymm hafter (length_le_of_peek?_eq_none hpeek)
          rw [hend]
          exact ⟨by simp only [Descent.outcome_pure]; omega, rfl⟩
      | some found =>
          dsimp only
          rw [outcome_failHere hafter]
          exact ⟨by dsimp only; omega, rfl⟩

/-! ## Positions of errors -/

/-- A token that cannot be read begins before the end. -/
theorem position_lt_of_tokensFrom {start position : Nat} {chars : List Char} {fault : Fault}
    (h : tokensFrom fuel start chars = .error (.malformed position fault)) :
    position < start + chars.length := by
  fun_induction tokensFrom fuel start chars with
  | case1 | case2 => cases h
  | case3 fuel start first rest hblank ih =>
      have := ih h
      rw [List.length_cons]
      omega
  | case4 =>
      cases h
      rw [List.length_cons]
      omega
  | case5 fuel start first rest hblank token after hread next e herror ih =>
      cases h
      have := ih herror
      obtain ⟨word, hword, -, -⟩ := spells_of_readToken hread
      have hlength : (first :: rest).length = word.length + after.length := by
        rw [hword, List.length_append]
      omega
  | case6 => cases h

/-- Every token begins within the text. -/
theorem AccountsFor.stop_le (h : AccountsFor tokens text) (i : Nat) :
    Cursor.stop ⟨tokens, text.length⟩ i ≤ text.length := by
  have hend : Cursor.stop ⟨tokens, text.length⟩ tokens.length = text.length :=
    h.stop_length.trans String.length_toList
  rcases Nat.lt_or_ge i tokens.length with hi | hi
  · have hlt := h.stop_lt_stop hi (Nat.le_refl _)
    omega
  · rw [Cursor.stop_of_length_le hi]
    exact Nat.le_of_eq hend

/-- An error points into the text, or to its end. -/
theorem position_le_of_parse {position : Nat} {fault : Fault}
    (h : Expr.parse text = .error (.malformed position fault)) : position ≤ text.length := by
  unfold Expr.parse at h
  split at h
  · rename_i e htokens
    cases h
    have hlt := position_lt_of_tokensFrom htokens
    rw [Nat.zero_add, String.length_toList] at hlt
    exact Nat.le_of_lt hlt
  · rename_i tokens htokens
    cases pointsInto_of_ofTokens? h with
    | malformed i _ _ => exact (tokens?_eq_ok_iff.mp htokens).accountsFor.stop_le _

/-! ## The parser by places -/

/-- A text that has been cut into tokens is parsed inside the list of its tokens and the end, by so
few calls that it does not matter how many of them may stand inside one another.

- A call at any place of the list reads no entry outside of it and does not leave it; if it
  succeeds, at least one token has been taken for it.  It does what the parser does.
- The whole list gives what the text is parsed to, and if that is an expression, the end of the text
  has been reached.
- An error points into the text, or to its end. -/
theorem parses_within_tokens (htokens : tokens? text = .ok tokens)
    (hdepth : 20 * (tokens.length + 1) ≤ depth) :
    let list := entries tokens text.length
    let whole := (descendAll list depth).outcome 0
    (∀ c : Call, ∀ place < list.length,
      let o := (descend list depth c).outcome place
      o.ending.Inside list place c ∧ o.steps ≤ 20 * list.length ∧
        ∀ nesting r, tokens.length - place ≤ nesting →
          c.Gives nesting (cursorAt tokens text.length place) r →
            o.ending.Agrees tokens text.length r) ∧
    whole.steps ≤ 20 * list.length ∧
    (match Expr.parse text with
      | .ok expr => ∃ place, whole.ending = .returned expr place ∧
          list[place]? = some ⟨text.length, none⟩
      | .error e => whole.ending = .failed e) ∧
    ∀ position fault, Expr.parse text = .error (.malformed position fault) →
      position ≤ text.length := by
  obtain ⟨hsteps, hending⟩ := @outcome_descendAll tokens text.length depth hdepth
  refine ⟨fun c place hplace => ?_, ?_, ?_, fun position fault => position_le_of_parse⟩
  · rw [length_entries] at hplace
    have hle : place ≤ tokens.length := Nat.le_of_lt_succ hplace
    have hunpaid := c.unpaid_le
    have hmatches : ∀ nesting r, tokens.length - place ≤ nesting →
        c.Gives nesting (cursorAt tokens text.length place) r →
        ((descend (entries tokens text.length) depth c).outcome place).Matches tokens text.length
          c.credit (20 * (tokens.length - place) + c.unpaid) r :=
      fun nesting r hnesting hgives =>
        correct_descend tokens text.length depth hle hnesting (by omega) hgives
    obtain ⟨r, hgives⟩ := c.exists_gives tokens.length (cursorAt tokens text.length place)
    have hcall := hmatches _ r (Nat.sub_le _ _) hgives
    refine ⟨hcall.inside hle, ?_, fun nesting r hnesting hgives =>
      (hmatches nesting r hnesting hgives).agrees⟩
    rw [length_entries]
    exact Nat.le_trans hcall.steps_le (by omega)
  · rw [length_entries]
    exact hsteps
  · rw [Expr.parse, htokens, hending]
    dsimp only
    cases ofTokens? tokens text.length with
    | error e => rfl
    | ok expr => exact ⟨_, rfl, by simp [entries]⟩

/-- A text that ends after `in` is not read behind its end. -/
theorem parses_within_tokens_truncated :
    tokens? "S in" = .ok [⟨0, .name "S"⟩, ⟨2, .name "in"⟩] ∧ 20 * 3 ≤ 60 ∧
      (∀ c : Call, ∀ place < 3,
        ((descend (entries [⟨0, .name "S"⟩, ⟨2, .name "in"⟩] "S in".length) 60 c).outcome
          place).ending.Inside (entries [⟨0, .name "S"⟩, ⟨2, .name "in"⟩] "S in".length) place c) ∧
      ((descendAll (entries [⟨0, .name "S"⟩, ⟨2, .name "in"⟩] "S in".length) 60).outcome 0).ending =
        .failed (.malformed 4 (.wantedFlags none)) := by
  have htokens : tokens? "S in" = .ok [⟨0, .name "S"⟩, ⟨2, .name "in"⟩] := by
    rfl
  have hdepth : 20 * 3 ≤ 60 := by decide
  have hparse : Expr.parse "S in" = .error (.malformed 4 (.wantedFlags none)) := by
    rw [Expr.parse, htokens]
    rfl
  obtain ⟨hcalls, -, hending, -⟩ := parses_within_tokens htokens hdepth
  rw [hparse] at hending
  exact ⟨htokens, hdepth, fun c place hplace => (hcalls c place hplace).1, hending⟩

end Condition
end BranchingStory
