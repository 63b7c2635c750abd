import BranchingStory.Proofs.Condition.Tokens

/-!
# Where parse errors point

Every error of the parser names a token that it has found, or the end of the text, and points to a
place in the text.  The parser goes through the tokens once, so what it names is a token of the
text.  Most errors point to where this token begins.  The two that are found by taking a token, what
comes after `in` and what comes after `flags.`, point to where the token after it begins.

What holds of the parser of each level holds of that of the next looser one: this goes up through
the levels, and at the tightest one down to the parser for nested conditions.

Main results:

- `points_condition`: every error of the parser points into the tokens.
- `points_at_found_iff`: what an error names, where it points, and when both are the same.
-/

namespace BranchingStory
namespace Condition

variable {level next : Level} {taken : List Token} {expr left : Expr} {c c' : Cursor}
  {nested : Parser} {fault : Fault} {e : Error} {text : String} {tokens : List Placed}
  {position i : Nat}

/-! ## What an error names -/

namespace Fault

/-- The token that is named as found; `none` in its place is the end of the text. -/
def found? : Fault → Option (Option Token)
  | badNumber _ | unterminatedText | strayCharacter _ => none
  | leftOver found => some (some found)
  | wanted _ found | wantedFlags found | wantedMember found | wantedValue found => some found

/-- The wording before the token that is named. -/
def lead : Fault → String
  | wanted token _ => "expected " ++ token.describe ++ ", found "
  | wantedFlags _ => "'in' must be followed by 'flags', found "
  | wantedMember _ => "expected a flags method, found "
  | wantedValue _ => "expected a value, found "
  | badNumber _ | unterminatedText | strayCharacter _ | leftOver _ => "unexpected "

/-- The message of a fault ends with the token that is named. -/
theorem message_eq {found : Option Token} (h : fault.found? = some found) :
    fault.message = fault.lead ++ describeFound found := by
  cases fault <;> cases h <;> rfl

/-- How many tokens after the one that is named the fault points to.  It is one where the named
token has been taken before the fault is reported. -/
def lag : Fault → Nat
  | wantedFlags _ | wantedMember _ => 1
  | _ => 0

end Fault

/-- The token after the next `i` of them. -/
def Cursor.tokenAt (c : Cursor) (i : Nat) : Option Token :=
  c.rest[i]?.map Placed.token

/-- An error names what stands behind the next `i` tokens, and points to where this begins or, if
there is a lag, to where the token after it begins. -/
inductive Error.PointsInto (c : Cursor) : Error → Prop
  | malformed {fault : Fault} (i : Nat) (hi : i ≤ c.rest.length)
      (hfound : fault.found? = some (c.tokenAt i)) :
      PointsInto c (.malformed (c.stop (i + fault.lag)) fault)
  | unknownSymbol (name : String) : PointsInto c (.unknownSymbol name)

/-! ## Errors at and behind a cursor -/

namespace Cursor

@[simp]
theorem tokenAt_zero (c : Cursor) : c.tokenAt 0 = c.peek? := by
  rw [tokenAt, peek?, List.head?_eq_getElem?]

@[simp]
theorem stop_zero (c : Cursor) : c.stop 0 = c.position :=
  rfl

@[simp]
theorem stop_one (c : Cursor) : c.stop 1 = c.advance.position := by
  rw [stop, advance, List.drop_one]

/-- Positions are counted on from the tokens that have been taken. -/
theorem Takes.stop_add (h : c.Takes c' taken) (i : Nat) :
    c.stop (taken.length + i) = c'.stop i := by
  obtain ⟨placed, rfl, rfl⟩ := h
  rw [stop, stop, List.length_map, List.drop_length_add_append]

/-- Tokens are counted on from those that have been taken. -/
theorem Takes.tokenAt_add (h : c.Takes c' taken) (i : Nat) :
    c.tokenAt (taken.length + i) = c'.tokenAt i := by
  obtain ⟨placed, rfl, rfl⟩ := h
  simp [tokenAt, List.getElem?_append_right]

end Cursor

/-- A fault in the next token. -/
theorem pointsInto_failAt (hfound : fault.found? = some c.peek?) (hlag : fault.lag = 0) :
    (failAt c fault).PointsInto c := by
  rw [← c.tokenAt_zero] at hfound
  have h := Error.PointsInto.malformed 0 (Nat.zero_le _) hfound
  rwa [hlag, Cursor.stop_zero] at h

/-- A fault in the next token that is reported after this has been taken. -/
theorem pointsInto_failAt_advance (hfound : fault.found? = some c.peek?) (hlag : fault.lag = 1) :
    (failAt c.advance fault).PointsInto c := by
  rw [← c.tokenAt_zero] at hfound
  have h := Error.PointsInto.malformed 0 (Nat.zero_le _) hfound
  rwa [hlag, Nat.zero_add, Cursor.stop_one] at h

/-- An error behind tokens that have been taken points into all of them. -/
theorem Error.PointsInto.behind (h : e.PointsInto c') (htakes : c.Takes c' taken) :
    e.PointsInto c := by
  cases h with
  | unknownSymbol name => exact .unknownSymbol name
  | @malformed fault i hi hfound =>
      have hi' : taken.length + i ≤ c.rest.length := by
        rw [htakes.length_rest]
        exact Nat.add_le_add_left hi _
      rw [← htakes.tokenAt_add] at hfound
      rw [← htakes.stop_add, ← Nat.add_assoc]
      exact .malformed _ hi' hfound

/-! ## Parsers of the levels -/

/-- Every error of the parser points into the tokens that it is given. -/
def Points (parser : Parser) : Prop :=
  ∀ ⦃c e⦄, parser c = .error e → e.PointsInto c

/-- Every error of the extension points into the tokens that it is given. -/
def PointsOn (extend : Extension) : Prop :=
  ∀ ⦃left c e⦄, extend left c = some (.error e) → e.PointsInto c

/-- An error behind an operator is one of the operand. -/
theorem pointsOn_byOperator {binaryOp? : Operator → Option BinaryOp} {operand : Parser}
    (hoperand : Points operand) : PointsOn (byOperator binaryOp? operand) := by
  intro left c e h
  unfold byOperator at h
  split at h
  · rename_i hpeek
    obtain ⟨op, -, hright⟩ := Option.map_eq_some_iff.mp h
    split at hright
    · rename_i herror
      cases hright
      exact (hoperand herror).behind (Cursor.takes_advance hpeek)
    · cases hright
  · cases h

/-- What follows `in` instead of `flags` is blamed one token late. -/
theorem pointsOn_byMembership : PointsOn byMembership := by
  intro left c e h
  unfold byMembership at h
  split at h
  · rename_i hin
    split at h
    · cases h
    · cases h
      exact (pointsInto_failAt_advance rfl rfl).behind (Cursor.takes_advance hin)
  · cases h

/-- The errors of every extension of a level point into the tokens behind the expression. -/
theorem pointsOn_extensionAt {operand : Parser} (hoperand : Points operand) (level : Level) :
    PointsOn (extensionAt operand level) := by
  cases level with
  | comparison =>
      intro left c e h
      rcases Option.or_eq_some_iff.mp h with hmember | ⟨-, hoperator⟩
      · exact pointsOn_byMembership hmember
      · exact pointsOn_byOperator hoperand hoperator
  | disjunction | conjunction | equality | additive | multiplicative | unary | primary =>
      exact pointsOn_byOperator hoperand

/-- The errors of all extensions point into the tokens behind the expression. -/
theorem pointsInto_of_extendAll {extend : Extension} (hextend : Extends extend level)
    (hpoints : PointsOn extend) {fuel : Nat} (h : extendAll extend fuel left c = .error e) :
    e.PointsInto c := by
  induction fuel generalizing left c with
  | zero => cases h
  | succ fuel ih =>
      rw [extendAll] at h
      split at h
      · cases h
      · rename_i hstep
        cases h
        exact hpoints hstep
      · rename_i hstep
        obtain ⟨first, hfirst, -⟩ := hextend hstep
        exact (ih h).behind hfirst

/-- A level points into its tokens if the next tighter one does. -/
theorem points_of_tighter? (hnext : level.tighter? = some next) (hlevel : level ≠ .unary)
    (hreads : Reads (parserAt nested next) next) (hpoints : Points (parserAt nested next)) :
    Points (parserAt nested level) := by
  rw [parserAt_of_tighter? hnext hlevel]
  intro c e h
  unfold operandThen at h
  split at h
  · rename_i hoperand
    cases h
    exact hpoints hoperand
  · rename_i hoperand
    obtain ⟨first, hfirst, -⟩ := hreads hoperand
    have hrest := pointsInto_of_extendAll (extends_extensionAt hnext hreads)
      (pointsOn_extensionAt hpoints level) h
    exact hrest.behind hfirst

/-! ### The tightest levels -/

/-- A mark that is missing is blamed on the token that stands there. -/
theorem pointsInto_of_take {mark : Mark} (h : take mark c = .error e) : e.PointsInto c := by
  unfold take at h
  split at h
  · cases h
  · cases h
    exact pointsInto_failAt rfl rfl

/-- The errors behind `flags` point into the tokens there. -/
theorem points_flagsMember (hreads : Reads nested .disjunction) (hpoints : Points nested) :
    Points (flagsMember nested) := by
  intro c e h
  unfold flagsMember at h
  split at h
  · rename_i hdot
    cases h
    exact pointsInto_of_take hdot
  rename_i c₁ hdot
  refine Error.PointsInto.behind ?_ (takes_of_take hdot)
  split at h
  · rename_i hincludes
    refine Error.PointsInto.behind ?_ (Cursor.takes_advance hincludes)
    split at h
    · rename_i hopen
      cases h
      exact pointsInto_of_take hopen
    rename_i c₂ hopen
    refine Error.PointsInto.behind ?_ (takes_of_take hopen)
    split at h
    · rename_i hname
      cases h
      exact hpoints hname
    rename_i name c₃ hname
    obtain ⟨taken, htakes, -⟩ := hreads hname
    refine Error.PointsInto.behind ?_ htakes
    split at h
    · rename_i hclose
      cases h
      exact pointsInto_of_take hclose
    · cases h
  · cases h
  · cases h
    exact .unknownSymbol _
  · cases h
    exact pointsInto_failAt_advance rfl rfl

/-- The errors behind a name point into the tokens there. -/
theorem points_named (hreads : Reads nested .disjunction) (hpoints : Points nested)
    (name : String) : Points (named nested name) := by
  intro c e h
  unfold named at h
  split at h
  · cases h
  split at h
  · cases h
  split at h
  · cases h
  split at h
  · exact points_flagsMember hreads hpoints h
  split at h
  · cases h
  · cases h
    exact .unknownSymbol _

/-- The errors of a primary point into its tokens if those of nested conditions do. -/
theorem points_primary (hreads : Reads nested .disjunction) (hpoints : Points nested) :
    Points (primary nested) := by
  intro c e h
  unfold primary at h
  split at h
  · cases h
  · cases h
  · rename_i hpeek
    refine Error.PointsInto.behind ?_ (Cursor.takes_advance hpeek)
    split at h
    · rename_i hinner
      cases h
      exact hpoints hinner
    rename_i inner c₁ hinner
    obtain ⟨taken, htakes, -⟩ := hreads hinner
    refine Error.PointsInto.behind ?_ htakes
    split at h
    · rename_i hclose
      cases h
      exact pointsInto_of_take hclose
    · cases h
  · rename_i name hpeek
    exact (points_named hreads hpoints name h).behind (Cursor.takes_advance hpeek)
  · cases h
    exact pointsInto_failAt rfl rfl

/-- The errors behind operators in front of an operand are those of the operand. -/
theorem pointsInto_of_unaryFrom (hreads : Reads nested .disjunction) (hpoints : Points nested)
    {finish : Nat} {rest : List Placed} (h : unaryFrom nested finish rest = .error e) :
    e.PointsInto ⟨rest, finish⟩ := by
  induction rest generalizing e with
  | nil => exact points_primary hreads hpoints h
  | cons placed rest ih =>
      obtain ⟨position, token⟩ := placed
      have htoken : Cursor.Takes ⟨⟨position, token⟩ :: rest, finish⟩ ⟨rest, finish⟩ [token] :=
        Cursor.takes_advance rfl
      rw [unaryFrom.eq_def] at h
      dsimp only at h
      split at h
      · split at h
        · rename_i hoperand
          cases h
          exact (ih hoperand).behind htoken
        · cases h
      · split at h
        · rename_i hoperand
          cases h
          exact (ih hoperand).behind htoken
        · cases h
      · exact (ih h).behind htoken
      · exact points_primary hreads hpoints h

/-- The loosest level points into its tokens if the parser for nested conditions does. -/
theorem points_disjunction (hreads : Reads nested .disjunction) (hpoints : Points nested) :
    Points (parserAt nested .disjunction) := by
  have hread := reads_parserAt hreads
  have hunary : Points (parserAt nested .unary) :=
    fun c e h => pointsInto_of_unaryFrom hreads hpoints h
  have hmultiplicative : Points (parserAt nested .multiplicative) :=
    points_of_tighter? rfl (by decide) (hread .unary) hunary
  have hadditive : Points (parserAt nested .additive) :=
    points_of_tighter? rfl (by decide) (hread .multiplicative) hmultiplicative
  have hcomparison : Points (parserAt nested .comparison) :=
    points_of_tighter? rfl (by decide) (hread .additive) hadditive
  have hequality : Points (parserAt nested .equality) :=
    points_of_tighter? rfl (by decide) (hread .comparison) hcomparison
  have hconjunction : Points (parserAt nested .conjunction) :=
    points_of_tighter? rfl (by decide) (hread .equality) hequality
  exact points_of_tighter? rfl (by decide) (hread .conjunction) hconjunction

/-- Every error of the parser points into the tokens. -/
theorem points_condition (depth : Nat) : Points (condition depth) := by
  induction depth with
  | zero =>
      intro c e h
      cases h
      exact pointsInto_failAt rfl rfl
  | succ depth ih => exact points_disjunction (reads_condition depth) ih

/-- So does every error in what all the tokens make up. -/
theorem pointsInto_of_ofTokens? {finish : Nat} (h : ofTokens? tokens finish = .error e) :
    e.PointsInto ⟨tokens, finish⟩ := by
  unfold ofTokens? at h
  split at h
  · rename_i herror
    cases h
    exact points_condition _ herror
  · rename_i expr c hparsed
    obtain ⟨taken, htakes, -⟩ := reads_condition _ hparsed
    split at h
    · cases h
    · rename_i found hpeek
      cases h
      refine (pointsInto_failAt ?_ rfl).behind htakes
      rw [hpeek]
      rfl

/-! ## Places -/

/-- A token described in this way, or the end of the text, begins at the position. -/
def Cursor.HasAt (c : Cursor) (position : Nat) (description : String) : Prop :=
  ∃ i ≤ c.rest.length, c.stop i = position ∧ describeFound (c.tokenAt i) = description

/-- Later tokens begin later, and the end is behind them. -/
theorem AccountsFor.stop_lt_stop (h : AccountsFor tokens text) {j : Nat} (hij : i < j)
    (hj : j ≤ tokens.length) :
    Cursor.stop ⟨tokens, text.length⟩ i < Cursor.stop ⟨tokens, text.length⟩ j := by
  induction j with
  | zero => exact absurd hij (Nat.not_lt_zero i)
  | succ j ih =>
      have hnext := h.stop_lt j hj
      rcases Nat.lt_succ_iff_lt_or_eq.mp hij with hlt | rfl
      · exact Nat.lt_trans (ih hlt (Nat.le_of_succ_le hj)) hnext
      · exact hnext

/-- No two tokens begin at one place. -/
theorem AccountsFor.eq_of_stop_eq (h : AccountsFor tokens text) {j : Nat}
    (hi : i ≤ tokens.length) (hj : j ≤ tokens.length)
    (heq : Cursor.stop ⟨tokens, text.length⟩ i = Cursor.stop ⟨tokens, text.length⟩ j) : i = j := by
  rcases Nat.lt_trichotomy i j with hlt | rfl | hlt
  · exact absurd heq (Nat.ne_of_lt (h.stop_lt_stop hlt hj))
  · rfl
  · exact absurd heq.symm (Nat.ne_of_lt (h.stop_lt_stop hlt hi))

/-- Behind the last token there is only the end. -/
theorem Cursor.stop_of_length_le (hi : c.rest.length ≤ i) : c.stop i = c.stop c.rest.length := by
  rw [stop, stop, List.drop_of_length_le hi, List.drop_length]

/-- Behind the last token there is only the end. -/
theorem Cursor.tokenAt_of_length_le (hi : c.rest.length ≤ i) :
    c.tokenAt i = c.tokenAt c.rest.length := by
  rw [tokenAt, tokenAt, List.getElem?_eq_none hi, List.getElem?_eq_none (Nat.le_refl _)]

/-- What begins at the stop behind some tokens is the next one and nothing else. -/
theorem AccountsFor.hasAt_stop_iff_of_le (h : AccountsFor tokens text) (hi : i ≤ tokens.length)
    {description : String} :
    Cursor.HasAt ⟨tokens, text.length⟩ (Cursor.stop ⟨tokens, text.length⟩ i) description ↔
      describeFound (Cursor.tokenAt ⟨tokens, text.length⟩ i) = description := by
  constructor
  · rintro ⟨j, hj, hstop, hdescription⟩
    rwa [h.eq_of_stop_eq hj hi hstop] at hdescription
  · intro hdescription
    exact ⟨i, hi, rfl, hdescription⟩

/-- At a position where a token begins it is this token that is described. -/
theorem AccountsFor.hasAt_stop_iff (h : AccountsFor tokens text) (i : Nat)
    {description : String} :
    Cursor.HasAt ⟨tokens, text.length⟩ (Cursor.stop ⟨tokens, text.length⟩ i) description ↔
      describeFound (Cursor.tokenAt ⟨tokens, text.length⟩ i) = description := by
  rcases Nat.le_total i tokens.length with hi | hi
  · exact h.hasAt_stop_iff_of_le hi
  · rw [Cursor.stop_of_length_le hi, Cursor.tokenAt_of_length_le hi]
    exact h.hasAt_stop_iff_of_le (Nat.le_refl _)

/-- A fault is reported at the token that is named, or one token late. -/
theorem Fault.lag_eq (fault : Fault) : fault.lag = 0 ∨ fault.lag = 1 := by
  cases fault <;> simp [lag]

/-- An error in a text that has been cut into tokens names one of them, or the end, with the message
ending in its description.  It points to where this token begins, or one token further if it has a
lag.  So what it names begins where it points exactly if there is no lag, or the next token has the
same description. -/
theorem points_at_found_iff (htokens : tokens? text = .ok tokens)
    (hparse : Expr.parse text = .error (.malformed position fault)) :
    ∃ i ≤ tokens.length,
      let found := Cursor.tokenAt ⟨tokens, text.length⟩ i
      fault.found? = some found ∧ fault.message = fault.lead ++ describeFound found ∧
        position = Cursor.stop ⟨tokens, text.length⟩ (i + fault.lag) ∧
        (Cursor.HasAt ⟨tokens, text.length⟩ position (describeFound found) ↔
          fault.lag = 0 ∨
            describeFound (Cursor.tokenAt ⟨tokens, text.length⟩ (i + 1)) = describeFound found) := by
  have haccounts : AccountsFor tokens text := (tokens?_eq_ok_iff.mp htokens).accountsFor
  have herror : ofTokens? tokens text.length = .error (.malformed position fault) := by
    rwa [Expr.parse, htokens] at hparse
  cases pointsInto_of_ofTokens? herror with
  | malformed i hi hfound =>
      refine ⟨i, hi, hfound, Fault.message_eq hfound, rfl, ?_⟩
      rw [haccounts.hasAt_stop_iff]
      rcases fault.lag_eq with hlag | hlag <;> simp [hlag]

/-- What stands behind a whole condition is named where it begins. -/
theorem points_at_found_stray :
    tokens? "S in flags) + R" = .ok [⟨0, .name "S"⟩, ⟨2, .name "in"⟩, ⟨5, .name "flags"⟩,
        ⟨10, .rightParen⟩, ⟨12, .op .plus⟩, ⟨14, .name "R"⟩] ∧
      Expr.parse "S in flags) + R" = .error (.malformed 10 (.leftOver .rightParen)) ∧
      Cursor.HasAt ⟨[⟨0, .name "S"⟩, ⟨2, .name "in"⟩, ⟨5, .name "flags"⟩, ⟨10, .rightParen⟩,
        ⟨12, .op .plus⟩, ⟨14, .name "R"⟩], "S in flags) + R".length⟩ 10 "')'" := by
  have htokens : tokens? "S in flags) + R" = .ok [⟨0, .name "S"⟩, ⟨2, .name "in"⟩,
      ⟨5, .name "flags"⟩, ⟨10, .rightParen⟩, ⟨12, .op .plus⟩, ⟨14, .name "R"⟩] := by
    rfl
  have hparse : Expr.parse "S in flags) + R" = .error (.malformed 10 (.leftOver .rightParen)) := by
    rw [Expr.parse, htokens]
    rfl
  refine ⟨htokens, hparse, ?_⟩
  obtain ⟨i, -, hfound, -, -, hplace⟩ := points_at_found_iff htokens hparse
  rw [← Option.some.inj hfound] at hplace
  exact hplace.mpr (Or.inl rfl)

/-- Not every error points to what it names: a wrong name after `in` is said to be found where the
text ends. -/
theorem not_always_points_at_found :
    ¬ ∀ text tokens position fault found, tokens? text = .ok tokens →
      Expr.parse text = .error (.malformed position fault) → fault.found? = some found →
        Cursor.HasAt ⟨tokens, text.length⟩ position (describeFound found) := by
  intro h
  have htokens : tokens? "'A' in S" =
      .ok [⟨0, .text "A"⟩, ⟨4, .name "in"⟩, ⟨7, .name "S"⟩] := by
    rfl
  have hparse : Expr.parse "'A' in S" =
      .error (.malformed 8 (.wantedFlags (some (.name "S")))) := by
    rw [Expr.parse, htokens]
    rfl
  obtain ⟨i, hi, hstop, hdescription⟩ := h _ _ _ _ _ htokens hparse rfl
  -- The first three tokens begin elsewhere, and the end is not described as a name.
  match i, hi with
  | 0, _ => exact absurd hstop (by decide)
  | 1, _ => exact absurd hstop (by decide)
  | 2, _ => exact absurd hstop (by decide)
  | 3, _ => exact absurd hdescription (by decide)

end Condition
end BranchingStory
