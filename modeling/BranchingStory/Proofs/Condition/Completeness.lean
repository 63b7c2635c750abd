import BranchingStory.Proofs.Condition.Soundness

/-!
# What the parser accepts

On an expression that is followed by something else, the parser of a level comes to stand behind the
expression, with its tree in hand, provided that what follows does not go on with an expression of a
tighter level.  From there it goes on extending, so the induction on a derivation can add an
operator and its right operand to what stands on its left.

With what the parser takes, this says that it accepts exactly the grammar.

Main results:

- `completes_of_derives`: the parser takes every derivable expression.
- `Derives.unique`: a list of tokens has one tree at most.
- `ofTokens?_eq_ok_iff`, `Expr.parse_eq_ok_iff`: the trees that the parser gives.
- `accepts_iff_derives`: the parser accepts exactly the grammar, with the one tree there is.
-/

namespace BranchingStory
namespace Condition

variable {level next : Level} {o : Operator} {op : BinaryOp} {token : Token}
  {taken others : List Token} {expr left : Expr} {c c' : Cursor} {nested : Parser}

/-! ## Where an expression ends -/

/-- What comes next does not go on with an expression of at least a certain strength. -/
def Cursor.Stops (c : Cursor) (strength : Nat) : Prop :=
  ∀ token, c.peek? = some token → ∀ level, Continues level token → level.strength < strength

/-- What stops an expression stops every one that binds as strongly or more. -/
theorem Cursor.Stops.mono {strength strength' : Nat} (h : c.Stops strength)
    (hle : strength ≤ strength') : c.Stops strength' :=
  fun token htoken level hlevel => Nat.lt_of_lt_of_le (h token htoken level hlevel) hle

/-- A token that goes on with a level stops the tighter ones. -/
theorem Cursor.stops_of_continues (hpeek : c.peek? = some token) (h : Continues level token) :
    c.Stops (level.strength + 1) := by
  intro other hother next hnext
  rw [hpeek] at hother
  cases hother
  rw [hnext.level_unique h]
  exact Nat.lt_succ_self _

/-- A right parenthesis stops every expression. -/
theorem Cursor.stops_of_rightParen (hpeek : c.peek? = some .rightParen) (strength : Nat) :
    c.Stops strength := by
  intro token htoken level hlevel
  rw [hpeek] at htoken
  cases htoken
  exact absurd hlevel not_continues_rightParen

/-- Without an operator of the level there is nothing to extend. -/
theorem byOperator_eq_none {operand : Parser} (h : ∀ token, c.peek? = some token →
    ¬ Continues level token) : byOperator (binaryOp? level) operand left c = none := by
  unfold byOperator
  split
  · rename_i o hpeek
    rw [Option.map_eq_none_iff]
    refine Option.eq_none_iff_forall_ne_some.mpr fun op hop => ?_
    exact h _ hpeek (.operator (binaryOp?_eq_some_iff.mp hop))
  · rfl

/-- What stops the level is no extension of it. -/
theorem extensionAt_eq_none {operand : Parser} (h : c.Stops level.strength) :
    extensionAt operand level left c = none := by
  have hnot : ∀ token, c.peek? = some token → ¬ Continues level token :=
    fun token hpeek hlevel => Nat.lt_irrefl _ (h token hpeek level hlevel)
  cases level with
  | comparison =>
      have hmember : byMembership left c = none := by
        unfold byMembership
        split
        · rename_i hpeek
          exact absurd .membership (hnot _ hpeek)
        · rfl
      exact Option.or_eq_none_iff.mpr ⟨hmember, byOperator_eq_none hnot⟩
  | disjunction | conjunction | equality | additive | multiplicative | unary | primary =>
      exact byOperator_eq_none hnot

/-- An expression that is not extended stays as it is. -/
theorem extendAll_of_eq_none {extend : Extension} (h : extend left c = none) (fuel : Nat) :
    extendAll extend fuel left c = .ok (left, c) := by
  cases fuel with
  | zero => rfl
  | succ fuel => rw [extendAll, h]

/-! ## Completeness -/

/-- The parser for the right operands of a level. -/
def operandAt (nested : Parser) (level : Level) : Parser :=
  parserAt nested (level.tighter?.getD .primary)

/-- The operands of a level are parsed by the next tighter one. -/
theorem operandAt_of_tighter? (hnext : level.tighter? = some next) :
    operandAt nested level = parserAt nested next := by
  rw [operandAt, hnext]
  rfl

/-- Wherever the tokens are followed by something that does not go on with a tighter level, the
parser of the level takes them and holds the expression, ready to extend it. -/
def Completes (level : Level) (tokens : List Token) (expr : Expr) : Prop :=
  ∀ ⦃depth c c'⦄, tokens.length ≤ depth → c.Takes c' tokens → c'.Stops (level.strength + 1) →
    ∃ fuel, c'.rest.length ≤ fuel ∧
      parserAt (condition depth) level c =
        extendAll (extensionAt (operandAt (condition depth) level) level) fuel expr c'

/-- If what follows does not go on with the level either, the parser is done. -/
theorem Completes.parserAt_eq_ok {depth : Nat} (h : Completes level taken expr)
    (hdepth : taken.length ≤ depth) (htakes : c.Takes c' taken)
    (hstops : c'.Stops level.strength) :
    parserAt (condition depth) level c = .ok (expr, c') := by
  obtain ⟨fuel, -, hparser⟩ := h hdepth htakes (hstops.mono (Nat.le_succ _))
  rw [hparser, extendAll_of_eq_none (extensionAt_eq_none hstops)]

/-! ### Operators and membership -/

/-- Before an operator only the operators of the level count. -/
theorem extensionAt_of_op {operand : Parser} (hpeek : c.peek? = some (.op o)) :
    extensionAt operand level left c = byOperator (binaryOp? level) operand left c := by
  cases level with
  | comparison =>
      have hmember : byMembership left c = none := by
        unfold byMembership
        rw [hpeek]
      rw [extensionAt, hmember]
      rfl
  | disjunction | conjunction | equality | additive | multiplicative | unary | primary => rfl

/-- An expression of the next tighter level is parsed as one of the level. -/
theorem completes_tighter (hnext : level.tighter? = some next) (hlevel : level ≠ .unary)
    (h : Completes next taken expr) : Completes level taken expr := by
  intro depth c c' hdepth htakes hstops
  rw [← Level.strength_of_tighter? hnext] at hstops
  refine ⟨c'.rest.length, Nat.le_refl _, ?_⟩
  rw [parserAt_of_tighter? hnext hlevel, operandThen, h.parserAt_eq_ok hdepth htakes hstops,
    operandAt_of_tighter? hnext]

/-- An expression is complete with what extends it, if the extension takes just that. -/
theorem Completes.append (hleft : Completes level taken left) (hcontinues : Continues level token)
    (hstep : ∀ ⦃depth c c'⦄, others.length < depth → c.Takes c' (token :: others) →
      c'.Stops (level.strength + 1) →
      extensionAt (operandAt (condition depth) level) level left c = some (.ok (expr, c'))) :
    Completes level (taken ++ token :: others) expr := by
  intro depth c c' hdepth htakes hstops
  rw [List.length_append, List.length_cons] at hdepth
  have hdepthLeft : taken.length ≤ depth := by omega
  have hdepthStep : others.length < depth := by omega
  obtain ⟨c₁, hfirst, hrest⟩ := Cursor.exists_takes_append htakes
  obtain ⟨fuel, hfuel, hparser⟩ :=
    hleft hdepthLeft hfirst (Cursor.stops_of_continues hrest.peek? hcontinues)
  -- One unit of fuel pays for the extension; as that takes a token, enough is left for the rest.
  have hlength : c₁.rest.length = others.length + 1 + c'.rest.length := hrest.length_rest
  obtain ⟨fuel, rfl⟩ : ∃ fuel', fuel = fuel' + 1 := ⟨fuel - 1, by omega⟩
  refine ⟨fuel, by omega, ?_⟩
  rw [hparser, extendAll, hstep hdepthStep hrest hstops]

/-- Two operands with an operator of the level between them are parsed as its operation. -/
theorem completes_operator (hop : Joins level o op) (hnext : level.tighter? = some next)
    {right : Expr} (hleft : Completes level taken left) (hright : Completes next others right) :
    Completes level (taken ++ .op o :: others) (.binary op left right) := by
  refine hleft.append (.operator hop) fun depth c c' hdepth htakes hstops => ?_
  rw [← Level.strength_of_tighter? hnext] at hstops
  have hoperand : operandAt (condition depth) level c.advance = .ok (right, c') := by
    rw [operandAt_of_tighter? hnext]
    exact hright.parserAt_eq_ok (Nat.le_of_lt hdepth) htakes.advance hstops
  rw [extensionAt_of_op htakes.peek?, byOperator, htakes.peek?]
  simp only [binaryOp?_eq_some_iff.mpr hop, hoperand, Option.map_some]

/-- A comparison in front of `in flags` is parsed as the name of a flag. -/
theorem completes_membership (h : Completes .comparison taken expr) :
    Completes .comparison (taken ++ [.name "in", .name "flags"]) (.hasFlag expr) := by
  refine h.append .membership fun depth c c' _ htakes _ => ?_
  have hend : c.advance.advance = c' := Cursor.eq_of_takes_nil htakes.advance.advance
  simp only [extensionAt, byMembership, htakes.peek?, htakes.advance.peek?, hend, Option.some_or]

/-! ### The tightest levels -/

/-- No token goes on with an operand alone. -/
theorem Cursor.stops_unary (c : Cursor) : c.Stops Level.unary.strength := by
  intro token _ level hlevel
  cases hlevel with
  | operator hop => cases hop <;> decide
  | membership => decide

/-- At the levels of operands the parser has nothing to extend. -/
theorem completes_of_parserAt_eq_ok (hlevel : Level.unary.strength ≤ level.strength)
    (h : ∀ ⦃depth c c'⦄, taken.length ≤ depth → c.Takes c' taken →
      parserAt (condition depth) level c = .ok (expr, c')) : Completes level taken expr := by
  intro depth c c' hdepth htakes _
  refine ⟨c'.rest.length, Nat.le_refl _, ?_⟩
  rw [h hdepth htakes, extendAll_of_eq_none (extensionAt_eq_none (c'.stops_unary.mono hlevel))]

/-- A bang in front negates the truth of the operand. -/
theorem unary_of_bang (h : c.peek? = some (.op .bang)) :
    unary nested c =
      match unary nested c.advance with
      | .error e => .error e
      | .ok (operand, c') => .ok (.unary .not operand, c') := by
  obtain ⟨position, hc⟩ := Cursor.eq_cons_of_peek? h
  rw [hc]
  rfl

/-- A minus sign in front negates the operand. -/
theorem unary_of_minus (h : c.peek? = some (.op .minus)) :
    unary nested c =
      match unary nested c.advance with
      | .error e => .error e
      | .ok (operand, c') => .ok (.unary .negate operand, c') := by
  obtain ⟨position, hc⟩ := Cursor.eq_cons_of_peek? h
  rw [hc]
  rfl

/-- A plus sign in front is passed over. -/
theorem unary_of_plus (h : c.peek? = some (.op .plus)) :
    unary nested c = unary nested c.advance := by
  obtain ⟨position, hc⟩ := Cursor.eq_cons_of_peek? h
  rw [hc]
  rfl

/-- Without an operator in front the operand is a primary. -/
theorem unary_eq_primary (h : c.peek? = some token) (htoken : ∀ o, token ≠ .op o) :
    unary nested c = primary nested c := by
  obtain ⟨position, hc⟩ := Cursor.eq_cons_of_peek? h
  rw [hc]
  cases token with
  | op o => exact absurd rfl (htoken o)
  | number _ | text _ | name _ | leftParen | rightParen | dot => rfl

/-- A primary is parsed as an operand without operators in front. -/
theorem completes_unary_of_primary (hderives : Derives .primary taken expr)
    (h : Completes .primary taken expr) : Completes .unary taken expr := by
  refine completes_of_parserAt_eq_ok (Nat.le_refl _) fun depth c c' hdepth htakes => ?_
  obtain ⟨token, others, rfl, htoken⟩ := hderives.exists_primary_head
  rw [parserAt, unary_eq_primary htakes.peek? htoken]
  exact h.parserAt_eq_ok hdepth htakes (c'.stops_unary.mono (by decide))

/-- An operand that is one token. -/
theorem completes_primary_of_token
    (h : ∀ nested c, c.peek? = some token → primary nested c = .ok (expr, c.advance)) :
    Completes .primary [token] expr := by
  refine completes_of_parserAt_eq_ok (by decide) fun depth c c' _ htakes => ?_
  rw [parserAt, h _ _ htakes.peek?, Cursor.eq_of_takes_nil htakes.advance]

/-- A primary that is a name is parsed by the meaning of the name. -/
theorem primary_of_name {name : String} (h : c.peek? = some (.name name)) :
    primary nested c = named nested name c.advance := by
  rw [primary, h]

/-- The symbol of a stat means the stat. -/
theorem named_key (stat : Stat) : named nested stat.key c = .ok (.symbol (.stat stat), c) := by
  cases stat <;> rfl

/-- A mark that comes next is taken. -/
theorem take_of_peek? (mark : Mark) (h : c.peek? = some mark.token) :
    take mark c = .ok c.advance :=
  if_pos (Mark.isAt_iff.mpr h)

/-- The number of flags. -/
theorem completes_flagCount :
    Completes .primary [.name "flags", .dot, .name "length"] (.symbol .flagCount) := by
  refine completes_of_parserAt_eq_ok (by decide) fun depth c c' _ htakes => ?_
  have hend : c.advance.advance.advance = c' :=
    Cursor.eq_of_takes_nil htakes.advance.advance.advance
  rw [parserAt, primary_of_name htakes.peek?]
  simp [named, flagsMember, take_of_peek? .dot htakes.advance.peek?,
    htakes.advance.advance.peek?, hend]

/-- A nested condition is parsed at the next depth, and the parenthesis after it stops it. -/
theorem Completes.exists_condition_eq_ok {depth : Nat} (h : Completes .disjunction taken expr)
    (hdepth : taken.length < depth) (htakes : c.Takes c' (taken ++ [.rightParen])) :
    ∃ c₁, condition depth c = .ok (expr, c₁) ∧ take .rightParen c₁ = .ok c' := by
  obtain ⟨c₁, hfirst, hparen⟩ := Cursor.exists_takes_append htakes
  obtain ⟨depth, rfl⟩ : ∃ depth', depth = depth' + 1 := ⟨depth - 1, by omega⟩
  refine ⟨c₁, ?_, ?_⟩
  · exact h.parserAt_eq_ok (Nat.le_of_lt_succ hdepth) hfirst
      (Cursor.stops_of_rightParen hparen.peek? _)
  · rw [take_of_peek? .rightParen hparen.peek?, Cursor.eq_of_takes_nil hparen.advance]

/-- A nested condition is parsed as the argument of `flags.includes`. -/
theorem completes_includes (h : Completes .disjunction taken expr) :
    Completes .primary
      ([.name "flags", .dot, .name "includes", .leftParen] ++ (taken ++ [.rightParen]))
      (.hasFlag expr) := by
  refine completes_of_parserAt_eq_ok (by decide) fun depth c c' hdepth htakes => ?_
  have hnested : taken.length < depth := by
    simp only [List.length_append, List.length_cons, List.length_nil] at hdepth
    omega
  have hdot := htakes.advance
  have hname := hdot.advance
  have hopen := hname.advance
  obtain ⟨c₁, hcondition, hclose⟩ := h.exists_condition_eq_ok hnested hopen.advance
  rw [parserAt, primary_of_name htakes.peek?]
  simp [named, flagsMember, take_of_peek? .dot hdot.peek?, hname.peek?,
    take_of_peek? .leftParen hopen.peek?, hcondition, hclose]

/-- A nested condition is parsed between parentheses. -/
theorem completes_parens (h : Completes .disjunction taken expr) :
    Completes .primary (.leftParen :: (taken ++ [.rightParen])) expr := by
  refine completes_of_parserAt_eq_ok (by decide) fun depth c c' hdepth htakes => ?_
  have hnested : taken.length < depth := by
    simp only [List.length_append, List.length_cons, List.length_nil] at hdepth
    omega
  obtain ⟨c₁, hcondition, hclose⟩ := h.exists_condition_eq_ok hnested htakes.advance
  simp [parserAt, primary, htakes.peek?, hcondition, hclose]

/-- An operand behind a bang is parsed as its negation. -/
theorem completes_not (h : Completes .unary taken expr) :
    Completes .unary (.op .bang :: taken) (.unary .not expr) := by
  refine completes_of_parserAt_eq_ok (Nat.le_refl _) fun depth c c' hdepth htakes => ?_
  have hoperand : unary (condition depth) c.advance = .ok (expr, c') :=
    h.parserAt_eq_ok (Nat.le_of_succ_le hdepth) htakes.advance c'.stops_unary
  rw [parserAt, unary_of_bang htakes.peek?, hoperand]

/-- An operand behind a minus sign is parsed as its negative. -/
theorem completes_negate (h : Completes .unary taken expr) :
    Completes .unary (.op .minus :: taken) (.unary .negate expr) := by
  refine completes_of_parserAt_eq_ok (Nat.le_refl _) fun depth c c' hdepth htakes => ?_
  have hoperand : unary (condition depth) c.advance = .ok (expr, c') :=
    h.parserAt_eq_ok (Nat.le_of_succ_le hdepth) htakes.advance c'.stops_unary
  rw [parserAt, unary_of_minus htakes.peek?, hoperand]

/-- An operand behind a plus sign is parsed as itself. -/
theorem completes_plus (h : Completes .unary taken expr) :
    Completes .unary (.op .plus :: taken) expr := by
  refine completes_of_parserAt_eq_ok (Nat.le_refl _) fun depth c c' hdepth htakes => ?_
  rw [parserAt, unary_of_plus htakes.peek?]
  exact h.parserAt_eq_ok (Nat.le_of_succ_le hdepth) htakes.advance c'.stops_unary

/-! ## Exactness -/

/-- The parser takes every derivable expression. -/
theorem completes_of_derives (h : Derives level taken expr) : Completes level taken expr := by
  induction h with
  | @tighter level next _ _ hnext hderives ih =>
      by_cases hlevel : level = .unary
      · subst hlevel
        cases hnext
        exact completes_unary_of_primary hderives ih
      · exact completes_tighter hnext hlevel ih
  | operator hop hnext _ _ ihleft ihright => exact completes_operator hop hnext ihleft ihright
  | membership _ ih => exact completes_membership ih
  | not _ ih => exact completes_not ih
  | negate _ ih => exact completes_negate ih
  | plus _ ih => exact completes_plus ih
  | number x => exact completes_primary_of_token fun nested c h => by rw [primary, h]
  | text s => exact completes_primary_of_token fun nested c h => by rw [primary, h]
  | true => exact completes_primary_of_token fun nested c h => by rw [primary_of_name h]; rfl
  | false => exact completes_primary_of_token fun nested c h => by rw [primary_of_name h]; rfl
  | location => exact completes_primary_of_token fun nested c h => by rw [primary_of_name h]; rfl
  | stat stat =>
      exact completes_primary_of_token fun nested c h => by rw [primary_of_name h, named_key]
  | flagCount => exact completes_flagCount
  | includes _ ih => exact completes_includes ih
  | parens _ ih => exact completes_parens ih

/-- A list of tokens has one tree at most. -/
theorem Derives.unique {expr' : Expr} (h : Derives level taken expr)
    (h' : Derives level taken expr') : expr = expr' := by
  have hend : Cursor.Stops ⟨[], 0⟩ level.strength := nofun
  have htakes : Cursor.Takes ⟨taken.map (Placed.mk 0), 0⟩ ⟨[], 0⟩ taken :=
    ⟨taken.map (Placed.mk 0), by simp, by simp [Function.comp_def]⟩
  have hparsed := (completes_of_derives h).parserAt_eq_ok (Nat.le_refl _) htakes hend
  rw [(completes_of_derives h').parserAt_eq_ok (Nat.le_refl _) htakes hend] at hparsed
  cases hparsed
  rfl

/-- The parser accepts exactly the conditions of the grammar, each with its tree. -/
theorem ofTokens?_eq_ok_iff (tokens : List Placed) (finish : Nat) (expr : Expr) :
    ofTokens? tokens finish = .ok expr ↔
      Derives .disjunction (tokens.map Placed.token) expr := by
  constructor
  · intro h
    unfold ofTokens? at h
    split at h
    · cases h
    rename_i parsed c hparsed
    split at h
    · rename_i hend
      cases h
      obtain ⟨taken, ⟨placed, hplaced, rfl⟩, hderives⟩ := reads_condition _ hparsed
      have hrest : c.rest = [] := by
        simpa [Cursor.peek?] using hend
      have htokens : tokens = placed := by
        simpa [hrest] using congrArg Cursor.rest hplaced
      exact htokens ▸ hderives
    · cases h
  · intro h
    have htakes : Cursor.Takes ⟨tokens, finish⟩ ⟨[], finish⟩ (tokens.map Placed.token) :=
      ⟨tokens, by simp, rfl⟩
    have hparsed : condition (tokens.length + 1) ⟨tokens, finish⟩ = .ok (expr, ⟨[], finish⟩) :=
      (completes_of_derives h).parserAt_eq_ok (by simp) htakes nofun
    rw [ofTokens?, hparsed]
    rfl

/-- A text is a condition if its tokens are. -/
theorem Expr.parse_eq_ok_iff (text : String) (expr : Expr) :
    Expr.parse text = .ok expr ↔
      ∃ tokens, tokens? text = .ok tokens ∧
        Derives .disjunction (tokens.map Placed.token) expr := by
  unfold Expr.parse
  cases htokens : tokens? text with
  | error e => simp
  | ok tokens => simp [ofTokens?_eq_ok_iff]

/-- The parser accepts exactly the lists of tokens that the grammar derives, and gives the one tree
that such a list has. -/
theorem accepts_iff_derives (tokens : List Placed) (finish : Nat) :
    ((∃ expr, ofTokens? tokens finish = .ok expr) ↔
        ∃ expr, Derives .disjunction (tokens.map Placed.token) expr) ∧
      ∀ expr, ofTokens? tokens finish = .ok expr →
        ∀ other, Derives .disjunction (tokens.map Placed.token) other ↔ other = expr := by
  refine ⟨exists_congr fun expr => ofTokens?_eq_ok_iff tokens finish expr, ?_⟩
  intro expr h other
  have hderives := (ofTokens?_eq_ok_iff tokens finish expr).mp h
  constructor
  · exact fun hother => hother.unique hderives
  · rintro rfl
    exact hderives

/-- The tokens of `!S - +(R - M) in flags`, and their tree: the sign in front of the parenthesis
leaves nothing behind, and the test for a flag is of the whole difference. -/
theorem derives_mixedTokens :
    Derives .disjunction
      [.op .bang, .name "S", .op .minus, .op .plus, .leftParen, .name "R", .op .minus, .name "M",
        .rightParen, .name "in", .name "flags"]
      (.hasFlag (.binary .subtract (.unary .not (.symbol (.stat .safety)))
        (.binary .subtract (.symbol (.stat .resources)) (.symbol (.stat .mobility))))) :=
  ((accepts_iff_derives
    [⟨0, .op .bang⟩, ⟨1, .name "S"⟩, ⟨3, .op .minus⟩, ⟨5, .op .plus⟩, ⟨6, .leftParen⟩,
      ⟨7, .name "R"⟩, ⟨9, .op .minus⟩, ⟨11, .name "M"⟩, ⟨12, .rightParen⟩, ⟨14, .name "in"⟩,
      ⟨17, .name "flags"⟩] 22).2 _ rfl _).mpr rfl

end Condition
end BranchingStory
