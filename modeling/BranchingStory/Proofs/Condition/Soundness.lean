import BranchingStory.Proofs.Condition.Grammar

/-!
# What the parser takes

The parser of each level is the parser of the next tighter one, followed by as many extensions of
the level as possible.  Whatever it takes is an expression of its level with the tree that it gives:
this goes up through the levels, and at the tightest one down to the parser for nested conditions.

Main results:

- `parserAt_of_tighter?`: how the parser of a level is built.
- `reads_condition`: the parser takes derivable conditions only.
-/

namespace BranchingStory
namespace Condition

variable {level next : Level} {o : Operator} {op : BinaryOp} {token : Token}
  {taken others : List Token} {expr left left' : Expr} {c c' c'' : Cursor} {nested : Parser}

/-! ## Taking tokens -/

/-- Some tokens lie between two cursors. -/
def Cursor.Takes (c c' : Cursor) (taken : List Token) : Prop :=
  ∃ placed, c = ⟨placed ++ c'.rest, c'.finish⟩ ∧ placed.map Placed.token = taken

namespace Cursor

/-- No tokens lie between a cursor and itself. -/
theorem Takes.refl (c : Cursor) : c.Takes c [] :=
  ⟨[], rfl, rfl⟩

/-- The tokens up to a cursor are followed by those from it on. -/
theorem Takes.trans (h : c.Takes c' taken) (h' : c'.Takes c'' others) :
    c.Takes c'' (taken ++ others) := by
  obtain ⟨placed, rfl, rfl⟩ := h
  obtain ⟨placed', rfl, rfl⟩ := h'
  exact ⟨placed ++ placed', by simp, by simp⟩

/-- The tokens of a concatenation are taken one part after the other. -/
theorem exists_takes_append (h : c.Takes c'' (taken ++ others)) :
    ∃ c', c.Takes c' taken ∧ c'.Takes c'' others := by
  obtain ⟨placed, rfl, hplaced⟩ := h
  obtain ⟨front, back, rfl, rfl, rfl⟩ := List.map_eq_append_iff.mp hplaced
  exact ⟨⟨back ++ c''.rest, c''.finish⟩, ⟨front, by simp, rfl⟩, ⟨back, rfl, rfl⟩⟩

/-- A cursor that has a next token begins with it. -/
theorem eq_cons_of_peek? (h : c.peek? = some token) :
    ∃ position, c = ⟨⟨position, token⟩ :: c.advance.rest, c.advance.finish⟩ := by
  obtain ⟨rest, finish⟩ := c
  cases rest with
  | nil => cases h
  | cons placed rest =>
      cases h
      exact ⟨placed.position, rfl⟩

/-- The next token lies between a cursor and the one after it. -/
theorem takes_advance (h : c.peek? = some token) : c.Takes c.advance [token] := by
  obtain ⟨position, hc⟩ := eq_cons_of_peek? h
  exact ⟨[⟨position, token⟩], hc, rfl⟩

/-- The first of the tokens that are taken is the next one. -/
theorem Takes.peek? (h : c.Takes c' (token :: taken)) : c.peek? = some token := by
  obtain ⟨placed, rfl, hplaced⟩ := h
  obtain ⟨first, rest, rfl, rfl, -⟩ := List.map_eq_cons_iff.mp hplaced
  rfl

/-- The others are taken after it. -/
theorem Takes.advance (h : c.Takes c' (token :: taken)) : c.advance.Takes c' taken := by
  obtain ⟨placed, rfl, hplaced⟩ := h
  obtain ⟨first, rest, rfl, -, rfl⟩ := List.map_eq_cons_iff.mp hplaced
  exact ⟨rest, rfl, rfl⟩

/-- The tokens that are taken and those that are left are all of them. -/
theorem Takes.length_rest (h : c.Takes c' taken) :
    c.rest.length = taken.length + c'.rest.length := by
  obtain ⟨placed, rfl, rfl⟩ := h
  simp

/-- Where no token is taken, the cursor stays. -/
theorem eq_of_takes_nil (h : c.Takes c' []) : c = c' := by
  obtain ⟨placed, rfl, hplaced⟩ := h
  rw [List.map_eq_nil_iff.mp hplaced]
  rfl

end Cursor

/-! ## Parsers of the levels -/

/-- The operators of a level. -/
def binaryOp? : Level → Operator → Option BinaryOp
  | .disjunction => orOp?
  | .conjunction => andOp?
  | .equality => equalityOp?
  | .comparison => comparisonOp?
  | .additive => additiveOp?
  | .multiplicative => multiplicativeOp?
  | .unary | .primary => fun _ => none

/-- The operators of each level are those of the grammar. -/
theorem binaryOp?_eq_some_iff : binaryOp? level o = some op ↔ Joins level o op := by
  constructor
  · intro h
    cases level <;> cases o <;> cases h <;> constructor
  · intro h
    cases h <;> rfl

/-- The parser of a level. -/
def parserAt (nested : Parser) : Level → Parser
  | .disjunction => disjunction nested
  | .conjunction => conjunction nested
  | .equality => equality nested
  | .comparison => comparison nested
  | .additive => additive nested
  | .multiplicative => multiplicative nested
  | .unary => unary nested
  | .primary => primary nested

/-- The extensions of a level, where operands have a parser. -/
def extensionAt (operand : Parser) (level : Level) : Extension := fun left c =>
  match level with
  | .comparison => (byMembership left c).or (byOperator comparisonOp? operand left c)
  | level => byOperator (binaryOp? level) operand left c

/-- The parser of a level is built from that of the next tighter one. -/
theorem parserAt_of_tighter? (hnext : level.tighter? = some next) (hlevel : level ≠ .unary) :
    parserAt nested level =
      operandThen (parserAt nested next) (extensionAt (parserAt nested next) level) := by
  cases level with
  | unary => exact absurd rfl hlevel
  | primary => cases hnext
  | disjunction | conjunction | equality | comparison | additive | multiplicative =>
      cases hnext
      rfl

/-! ## Soundness -/

/-- What the parser takes is an expression of a level. -/
def Reads (parser : Parser) (level : Level) : Prop :=
  ∀ ⦃c expr c'⦄, parser c = .ok (expr, c') →
    ∃ taken, c.Takes c' taken ∧ Derives level taken expr

/-- What the extension takes goes on with an expression of a level. -/
def Extends (extend : Extension) (level : Level) : Prop :=
  ∀ ⦃left c left' c'⦄, extend left c = some (.ok (left', c')) →
    ∃ taken, c.Takes c' taken ∧
      ∀ tokens, Derives level tokens left → Derives level (tokens ++ taken) left'

/-- An operator of the level and an operand go on with the expression. -/
theorem extends_byOperator {operand : Parser} (hnext : level.tighter? = some next)
    (hoperand : Reads operand next) : Extends (byOperator (binaryOp? level) operand) level := by
  intro left c left' c' h
  unfold byOperator at h
  split at h
  · rename_i o hpeek
    obtain ⟨op, hop, hright⟩ := Option.map_eq_some_iff.mp h
    split at hright
    · cases hright
    · rename_i right c₂ hparsed
      cases hright
      obtain ⟨taken, htakes, hderives⟩ := hoperand hparsed
      exact ⟨.op o :: taken, (Cursor.takes_advance hpeek).trans htakes,
        fun tokens hleft => .operator (binaryOp?_eq_some_iff.mp hop) hnext hleft hderives⟩
  · cases h

/-- A comparison is followed by `in flags`. -/
theorem extends_byMembership : Extends byMembership .comparison := by
  intro left c left' c' h
  unfold byMembership at h
  split at h
  · rename_i hin
    split at h
    · rename_i hflags
      cases h
      exact ⟨[.name "in", .name "flags"],
        (Cursor.takes_advance hin).trans (Cursor.takes_advance hflags),
        fun tokens hleft => .membership hleft⟩
    · cases h
  · cases h

/-- Whatever extends an expression of a level makes one of the level. -/
theorem extends_extensionAt {operand : Parser} (hnext : level.tighter? = some next)
    (hoperand : Reads operand next) : Extends (extensionAt operand level) level := by
  cases level with
  | comparison =>
      intro left c left' c' h
      rcases Option.or_eq_some_iff.mp h with hmember | ⟨-, hoperator⟩
      · exact extends_byMembership hmember
      · exact extends_byOperator hnext hoperand hoperator
  | disjunction | conjunction | equality | additive | multiplicative | unary | primary =>
      exact extends_byOperator hnext hoperand

/-- Extending an expression of a level as often as possible leaves an expression of the level. -/
theorem exists_takes_of_extendAll {extend : Extension} (hextend : Extends extend level) {fuel : Nat}
    (h : extendAll extend fuel left c = .ok (left', c')) :
    ∃ taken, c.Takes c' taken ∧
      ∀ tokens, Derives level tokens left → Derives level (tokens ++ taken) left' := by
  induction fuel generalizing left c with
  | zero =>
      cases h
      exact ⟨[], .refl _, fun tokens hleft => by rwa [List.append_nil]⟩
  | succ fuel ih =>
      rw [extendAll] at h
      split at h
      · cases h
        exact ⟨[], .refl _, fun tokens hleft => by rwa [List.append_nil]⟩
      · cases h
      · rename_i middle c₁ hstep
        obtain ⟨first, hfirst, hmiddle⟩ := hextend hstep
        obtain ⟨rest, hrest, hlast⟩ := ih h
        refine ⟨first ++ rest, hfirst.trans hrest, fun tokens hleft => ?_⟩
        rw [← List.append_assoc]
        exact hlast _ (hmiddle _ hleft)

/-- A level is sound if the next tighter one is. -/
theorem reads_of_tighter? (hnext : level.tighter? = some next) (hlevel : level ≠ .unary)
    (h : Reads (parserAt nested next) next) : Reads (parserAt nested level) level := by
  rw [parserAt_of_tighter? hnext hlevel]
  intro c expr c' hparsed
  unfold operandThen at hparsed
  split at hparsed
  · cases hparsed
  · rename_i left c₁ hoperand
    obtain ⟨first, hfirst, hleft⟩ := h hoperand
    obtain ⟨rest, hrest, hextended⟩ :=
      exists_takes_of_extendAll (extends_extensionAt hnext h) hparsed
    exact ⟨first ++ rest, hfirst.trans hrest, hextended first (.tighter hnext hleft)⟩

/-! ### The tightest levels -/

/-- A parser that insists on a mark takes its token. -/
theorem takes_of_take {mark : Mark} (h : take mark c = .ok c') : c.Takes c' [mark.token] := by
  unfold take at h
  split at h
  · rename_i hmark
    cases h
    exact Cursor.takes_advance (Mark.isAt_iff.mp hmark)
  · cases h

/-- What follows `flags` makes a primary with it. -/
theorem exists_takes_of_flagsMember (hnested : Reads nested .disjunction)
    (h : flagsMember nested c = .ok (expr, c')) :
    ∃ taken, c.Takes c' taken ∧ Derives .primary (.name "flags" :: taken) expr := by
  unfold flagsMember at h
  split at h
  · cases h
  rename_i c₁ hdot
  split at h
  · rename_i hincludes
    split at h
    · cases h
    rename_i c₂ hopen
    split at h
    · cases h
    rename_i name c₃ hname
    split at h
    · cases h
    rename_i c₄ hclose
    cases h
    obtain ⟨tokens, htokens, hderives⟩ := hnested hname
    have htakes := (takes_of_take hdot).trans ((Cursor.takes_advance hincludes).trans
      ((takes_of_take hopen).trans (htokens.trans (takes_of_take hclose))))
    exact ⟨_, htakes, .includes hderives⟩
  · rename_i hlength
    cases h
    exact ⟨_, (takes_of_take hdot).trans (Cursor.takes_advance hlength), .flagCount⟩
  · cases h
  · cases h

/-- What follows a name makes a primary with it. -/
theorem exists_takes_of_named (hnested : Reads nested .disjunction) {name : String}
    (h : named nested name c = .ok (expr, c')) :
    ∃ taken, c.Takes c' taken ∧ Derives .primary (.name name :: taken) expr := by
  unfold named at h
  split at h
  · rename_i hname
    cases h
    exact ⟨[], .refl c, hname ▸ .true⟩
  split at h
  · rename_i hname
    cases h
    exact ⟨[], .refl c, hname ▸ .false⟩
  split at h
  · rename_i hname
    cases h
    exact ⟨[], .refl c, hname ▸ .location⟩
  split at h
  · rename_i hname
    exact hname ▸ exists_takes_of_flagsMember hnested h
  split at h
  · rename_i stat hstat
    cases h
    have hkey : stat.key = name := Stat.key_of_ofKey? hstat
    exact ⟨[], .refl c, hkey ▸ .stat stat⟩
  · cases h

/-- Primaries are sound if nested conditions are. -/
theorem reads_primary (hnested : Reads nested .disjunction) :
    Reads (primary nested) .primary := by
  intro c expr c' h
  unfold primary at h
  split at h
  · rename_i x hpeek
    cases h
    exact ⟨_, Cursor.takes_advance hpeek, .number x⟩
  · rename_i s hpeek
    cases h
    exact ⟨_, Cursor.takes_advance hpeek, .text s⟩
  · rename_i hpeek
    split at h
    · cases h
    rename_i inner c₁ hinner
    split at h
    · cases h
    rename_i c₂ hclose
    cases h
    obtain ⟨tokens, htokens, hderives⟩ := hnested hinner
    exact ⟨_, (Cursor.takes_advance hpeek).trans (htokens.trans (takes_of_take hclose)),
      .parens hderives⟩
  · rename_i name hpeek
    obtain ⟨taken, htakes, hderives⟩ := exists_takes_of_named hnested h
    exact ⟨_, (Cursor.takes_advance hpeek).trans htakes, hderives⟩
  · cases h

/-- Operators in front of a primary make an operand with it. -/
theorem exists_takes_of_unaryFrom (hnested : Reads nested .disjunction) {finish : Nat}
    {rest : List Placed} (h : unaryFrom nested finish rest = .ok (expr, c')) :
    ∃ taken, Cursor.Takes ⟨rest, finish⟩ c' taken ∧ Derives .unary taken expr := by
  induction rest generalizing expr with
  | nil =>
      obtain ⟨taken, htakes, hderives⟩ := reads_primary hnested h
      exact ⟨taken, htakes, .tighter rfl hderives⟩
  | cons placed rest ih =>
      obtain ⟨position, token⟩ := placed
      have htoken : Cursor.Takes ⟨⟨position, token⟩ :: rest, finish⟩ ⟨rest, finish⟩ [token] :=
        Cursor.takes_advance rfl
      rw [unaryFrom.eq_def] at h
      dsimp only at h
      split at h
      · split at h
        · cases h
        rename_i operand c₁ hoperand
        cases h
        obtain ⟨taken, htakes, hderives⟩ := ih hoperand
        exact ⟨_, htoken.trans htakes, .not hderives⟩
      · split at h
        · cases h
        rename_i operand c₁ hoperand
        cases h
        obtain ⟨taken, htakes, hderives⟩ := ih hoperand
        exact ⟨_, htoken.trans htakes, .negate hderives⟩
      · obtain ⟨taken, htakes, hderives⟩ := ih h
        exact ⟨_, htoken.trans htakes, .plus hderives⟩
      · obtain ⟨taken, htakes, hderives⟩ := reads_primary hnested h
        exact ⟨taken, htakes, .tighter rfl hderives⟩

/-- Every level is sound if the parser for nested conditions is. -/
theorem reads_parserAt (hnested : Reads nested .disjunction) (level : Level) :
    Reads (parserAt nested level) level := by
  have hunary : Reads (parserAt nested .unary) .unary :=
    fun c expr c' h => exists_takes_of_unaryFrom hnested h
  have hmultiplicative : Reads (parserAt nested .multiplicative) .multiplicative :=
    reads_of_tighter? rfl (by decide) hunary
  have hadditive : Reads (parserAt nested .additive) .additive :=
    reads_of_tighter? rfl (by decide) hmultiplicative
  have hcomparison : Reads (parserAt nested .comparison) .comparison :=
    reads_of_tighter? rfl (by decide) hadditive
  have hequality : Reads (parserAt nested .equality) .equality :=
    reads_of_tighter? rfl (by decide) hcomparison
  have hconjunction : Reads (parserAt nested .conjunction) .conjunction :=
    reads_of_tighter? rfl (by decide) hequality
  cases level with
  | disjunction => exact reads_of_tighter? rfl (by decide) hconjunction
  | conjunction => exact hconjunction
  | equality => exact hequality
  | comparison => exact hcomparison
  | additive => exact hadditive
  | multiplicative => exact hmultiplicative
  | unary => exact hunary
  | primary => exact reads_primary hnested

/-- The parser takes derivable conditions only. -/
theorem reads_condition (depth : Nat) : Reads (condition depth) .disjunction := by
  induction depth with
  | zero => exact fun c expr c' h => nomatch h
  | succ depth ih => exact reads_parserAt ih .disjunction

end Condition
end BranchingStory
