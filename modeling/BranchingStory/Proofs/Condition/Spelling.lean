import BranchingStory.Condition.Lexer

/-!
# How tokens are spelled

Which characters spell a token, and how tokens are laid out in a text.  A number begins with a
digit, since a point at the beginning of a word is a token of its own.  Between quotes a backslash
makes the next character literal, whatever it is.

Numbers, names and operators go on as far as they can: a word ends where the next character does not
belong to it any more, and where no longer operator begins.  What is read from a text is just its
cut into such words, with blank characters between them.  A blank character goes on with no word, so
words that are separated by blanks end where they should.

Main results:

- `operator?_eq_some_iff`: the operator that is read is the longest that begins the characters.
- `readToken_eq_ok_iff`: reading takes a spelling that goes as far as it can.
- `tokens?_eq_ok_iff`: the tokens of a text are those of its cut into words.
-/

namespace BranchingStory
namespace Condition

variable {c quote : Char} {chars word after body contents : List Char} {token : Token}
  {placed : List Placed} {position fuel : Nat}

/-! ## Spellings -/

/-- What the characters between two quotes stand for: a backslash makes the next character literal
and stands for nothing itself, and any other character but the quote stands for itself. -/
inductive Quotes (quote : Char) : List Char → List Char → Prop
  | nil : Quotes quote [] []
  | plain {c : Char} {body contents : List Char} (hquote : c ≠ quote) (hbackslash : c ≠ '\\')
      (h : Quotes quote body contents) : Quotes quote (c :: body) (c :: contents)
  | escaped {c : Char} {body contents : List Char} (h : Quotes quote body contents) :
      Quotes quote ('\\' :: c :: body) (c :: contents)

/-- The characters spell a token. -/
inductive Spells : List Char → Token → Prop
  | number {first : Char} {others : List Char} {x : Float} (hfirst : first.isDigit = true)
      (hothers : ∀ c ∈ others, isNumberChar c = true)
      (hvalue : numberValue? (first :: others) = some x) : Spells (first :: others) (.number x)
  | name {first : Char} {others : List Char} (hfirst : isNameStart first = true)
      (hothers : ∀ c ∈ others, isNameChar c = true) :
      Spells (first :: others) (.name (String.ofList (first :: others)))
  | text {quote : Char} {body contents : List Char} (hquote : quote = '"' ∨ quote = '\'')
      (h : Quotes quote body contents) :
      Spells (quote :: (body ++ [quote])) (.text (String.ofList contents))
  | op (o : Operator) : Spells o.spelling.toList (.op o)
  | leftParen : Spells ['('] .leftParen
  | rightParen : Spells [')'] .rightParen
  | dot : Spells ['.'] .dot

/-! ## Blank characters -/

/-- A printable ASCII character is not blank. -/
theorem isBlank_eq_false_of_printable (h : 32 < c.toNat ∧ c.toNat ≤ 126) : isBlank c = false := by
  rw [← Bool.not_eq_true]
  intro hblank
  simp only [isBlank, Bool.or_eq_true, Bool.and_eq_true, decide_eq_true_eq, beq_iff_eq] at hblank
  omega

/-- The digits lie side by side among the characters. -/
theorem code_of_isDigit (h : c.isDigit = true) : 48 ≤ c.toNat ∧ c.toNat ≤ 57 := by
  obtain ⟨hlow, hhigh⟩ := Bool.and_eq_true_iff.mp h
  exact ⟨of_decide_eq_true hlow, of_decide_eq_true hhigh⟩

/-- The letters lie in two ranges among the characters. -/
theorem code_of_isAlpha (h : c.isAlpha = true) :
    65 ≤ c.toNat ∧ c.toNat ≤ 90 ∨ 97 ≤ c.toNat ∧ c.toNat ≤ 122 := by
  rcases Bool.or_eq_true_iff.mp h with hupper | hlower
  · exact Or.inl (of_decide_eq_true hupper)
  · obtain ⟨hlow, hhigh⟩ := Bool.and_eq_true_iff.mp hlower
    exact Or.inr ⟨of_decide_eq_true hlow, of_decide_eq_true hhigh⟩

/-- No character of a name is blank. -/
theorem isBlank_eq_false_of_isNameChar (h : isNameChar c = true) : isBlank c = false := by
  rcases Bool.or_eq_true_iff.mp h with halphanum | hunderscore
  · apply isBlank_eq_false_of_printable
    rcases Bool.or_eq_true_iff.mp halphanum with halpha | hdigit
    · have hcode := code_of_isAlpha halpha
      omega
    · have hcode := code_of_isDigit hdigit
      omega
  · rw [eq_of_beq hunderscore]
    rfl

/-- No character of a number is blank. -/
theorem isBlank_eq_false_of_isNumberChar (h : isNumberChar c = true) : isBlank c = false := by
  rcases Bool.or_eq_true_iff.mp h with hdigit | hpoint
  · exact isBlank_eq_false_of_isNameChar (by simp [isNameChar, Char.isAlphanum, hdigit])
  · rw [eq_of_beq hpoint]
    rfl

/-- A digit can stand in a number. -/
theorem isNumberChar_of_isDigit (h : c.isDigit = true) : isNumberChar c = true := by
  simp [isNumberChar, h]

/-- What can begin a name can stand in it. -/
theorem isNameChar_of_isNameStart (h : isNameStart c = true) : isNameChar c = true := by
  rcases Bool.or_eq_true_iff.mp h with halpha | hunderscore
  · simp [isNameChar, Char.isAlphanum, halpha]
  · simp [isNameChar, hunderscore]

/-- No name begins with a digit. -/
theorem isDigit_eq_false_of_isNameStart (h : isNameStart c = true) : c.isDigit = false := by
  rw [← Bool.not_eq_true]
  intro hdigit
  have hcode := code_of_isDigit hdigit
  rcases Bool.or_eq_true_iff.mp h with halpha | hunderscore
  · have hletter := code_of_isAlpha halpha
    omega
  · rw [eq_of_beq hunderscore] at hcode
    exact absurd hcode (by decide)

/-- A word begins with a character that is not blank. -/
theorem Spells.exists_head (h : Spells word token) :
    ∃ first others, word = first :: others ∧ isBlank first = false := by
  cases h with
  | number hfirst _ _ =>
      exact ⟨_, _, rfl, isBlank_eq_false_of_isNumberChar (isNumberChar_of_isDigit hfirst)⟩
  | name hfirst _ =>
      exact ⟨_, _, rfl, isBlank_eq_false_of_isNameChar (isNameChar_of_isNameStart hfirst)⟩
  | text hquote _ =>
      refine ⟨_, _, rfl, ?_⟩
      rcases hquote with rfl | rfl <;> rfl
  | op o => cases o <;> exact ⟨_, _, rfl, rfl⟩
  | leftParen | rightParen | dot => exact ⟨_, _, rfl, rfl⟩

/-! ## Where words end -/

/-- The operator is the longest that begins the characters. -/
structure Operator.IsLongestOf (chars : List Char) (o : Operator) : Prop where
  begins : o.spelling.toList <+: chars
  length_le : ∀ other : Operator, other.spelling.toList <+: chars →
    other.spelling.length ≤ o.spelling.length

/-- Nothing of what comes after a word belongs to it: no character of a number or of a name follows
one, and no longer operator begins where an operator does. -/
def Token.EndsBefore (after : List Char) : Token → Prop
  | number _ => ∀ c, after.head? = some c → isNumberChar c = false
  | name _ => ∀ c, after.head? = some c → isNameChar c = false
  | op o => o.IsLongestOf (o.spelling.toList ++ after)
  | text _ | leftParen | rightParen | dot => True

/-- An operator that ends where it is spelled is the longest one there. -/
theorem Spells.isLongestOf {o : Operator} (h : Spells word (.op o))
    (hends : (Token.op o).EndsBefore after) : o.IsLongestOf (word ++ after) := by
  cases h
  exact hends

/-- What comes after a word: a blank character, or nothing. -/
def Separated (after : List Char) : Prop :=
  ∀ c, after.head? = some c → isBlank c = true

/-- Whether an operator begins a text does not depend on what comes after a word. -/
theorem isPrefixOf_append_of_separated {chars : List Char} (hchars : ∀ c ∈ chars, isBlank c = false)
    (hafter : Separated after) (word : List Char) :
    chars.isPrefixOf (word ++ after) = chars.isPrefixOf word := by
  induction chars generalizing word with
  | nil => simp
  | cons c chars ih =>
      cases word with
      | cons first others =>
          rw [List.cons_append, List.isPrefixOf_cons_cons, List.isPrefixOf_cons_cons,
            ih fun c hc => hchars c (List.mem_cons_of_mem _ hc)]
      | nil =>
          cases after with
          | nil => rfl
          | cons b rest =>
              have hne : c ≠ b := by
                rintro rfl
                have hblank := hafter c rfl
                rw [hchars c List.mem_cons_self] at hblank
                cases hblank
              simp [List.isPrefixOf_cons_cons, hne]

/-- No character of an operator is blank. -/
theorem isBlank_eq_false_of_mem_spelling {o : Operator} (h : c ∈ o.spelling.toList) :
    isBlank c = false := by
  have hall : o.spelling.toList.all (fun c => !isBlank c) = true := by cases o <;> decide
  simpa using List.all_eq_true.mp hall c h

/-- A word ends where it is separated from what comes after it. -/
theorem Separated.endsBefore (hafter : Separated after) (token : Token) :
    token.EndsBefore after := by
  cases token with
  | number x =>
      intro c hc
      rw [← Bool.not_eq_true]
      intro hnumber
      have hblank := hafter c hc
      rw [isBlank_eq_false_of_isNumberChar hnumber] at hblank
      cases hblank
  | name s =>
      intro c hc
      rw [← Bool.not_eq_true]
      intro hname
      have hblank := hafter c hc
      rw [isBlank_eq_false_of_isNameChar hname] at hblank
      cases hblank
  | op o =>
      refine ⟨List.prefix_append _ _, fun other hother => ?_⟩
      rw [← List.isPrefixOf_iff_prefix, isPrefixOf_append_of_separated
        (fun c hc => isBlank_eq_false_of_mem_spelling hc) hafter, List.isPrefixOf_iff_prefix]
        at hother
      simpa [String.length_toList] using hother.length_le
  | text s | leftParen | rightParen | dot => trivial

/-! ## Reading a word -/

/-- A run of characters of a class ends before the first other character. -/
theorem span_of_head {p : Char → Bool} (hword : ∀ c ∈ word, p c = true)
    (hafter : ∀ c, after.head? = some c → p c = false) :
    (word ++ after).takeWhile p = word ∧ (word ++ after).dropWhile p = after := by
  rw [List.takeWhile_append_of_pos hword, List.dropWhile_append_of_pos hword]
  cases after with
  | nil => simp
  | cons c rest => simp [hafter c rfl]

/-- What is left after all that passes a test begins with something that does not. -/
theorem eq_false_of_head?_dropWhile {p : Char → Bool}
    (h : (chars.dropWhile p).head? = some c) : p c = false := by
  have hnot := List.head?_dropWhile_not p chars
  rw [h] at hnot
  simpa using hnot

/-- What is read of a text is what stands before the first quote that is not escaped. -/
theorem textContents?_eq_some_iff (hquote : quote ≠ '\\') :
    textContents? quote chars = some (contents, after) ↔
      ∃ body, chars = body ++ quote :: after ∧ Quotes quote body contents := by
  constructor
  · intro h
    fun_induction textContents? quote chars generalizing contents with
    | case1 => cases h
    | case2 c rest ih =>
        obtain ⟨⟨contents', after'⟩, hrest, ⟨⟩⟩ := Option.map_eq_some_iff.mp h
        obtain ⟨body, rfl, hbody⟩ := ih hrest
        exact ⟨'\\' :: c :: body, rfl, .escaped hbody⟩
    | case3 rest =>
        cases h
        exact ⟨[], rfl, .nil⟩
    | case4 c rest hescape hc ih =>
        obtain ⟨⟨contents', after'⟩, hrest, ⟨⟩⟩ := Option.map_eq_some_iff.mp h
        obtain ⟨body, rfl, hbody⟩ := ih hrest
        refine ⟨c :: body, rfl, .plain hc ?_ hbody⟩
        rintro rfl
        -- A backslash that is not followed by a character to escape is not followed by a quote.
        cases body with
        | nil => exact hescape _ _ rfl rfl
        | cons next body => exact hescape _ _ rfl rfl
  · rintro ⟨body, rfl, hbody⟩
    induction hbody with
    | nil => simp [textContents?, hquote]
    | plain hne hbackslash _ ih => simp [textContents?, hne, hbackslash, ih]
    | escaped _ ih => simp [textContents?, ih]

/-- Different operators have different spellings. -/
theorem Operator.eq_of_spelling_eq {o other : Operator} (h : o.spelling = other.spelling) :
    o = other := by
  have hfind : ∀ o : Operator, Operator.all.find? (·.spelling == o.spelling) = some o := by
    intro o
    cases o <;> decide
  have hboth := hfind o
  rw [h, hfind other] at hboth
  exact (Option.some.inj hboth).symm

/-- The operators are listed with longer spellings first. -/
theorem Operator.pairwise_all :
    Operator.all.Pairwise fun o other => other.spelling.length ≤ o.spelling.length := by
  decide

/-- The operator that is found is the longest one there. -/
theorem isLongestOf_of_operator? {o : Operator} (h : operator? chars = some o) :
    o.IsLongestOf chars := by
  obtain ⟨hbegins, before, others, hall, hbefore⟩ := List.find?_eq_some_iff_append.mp h
  refine ⟨List.isPrefixOf_iff_prefix.mp hbegins, fun other hother => ?_⟩
  have hmem : other ∈ before ++ o :: others := hall ▸ Operator.mem_all other
  rcases List.mem_append.mp hmem with hearlier | hlater
  · rw [← List.isPrefixOf_iff_prefix] at hother
    simpa [hother] using hbefore other hearlier
  · have hpairwise : (o :: others).Pairwise fun o other =>
        other.spelling.length ≤ o.spelling.length :=
      (List.pairwise_append.mp (hall ▸ Operator.pairwise_all)).2.1
    rcases List.mem_cons.mp hlater with rfl | hlater
    · exact Nat.le_refl _
    · exact List.rel_of_pairwise_cons hpairwise hlater

/-- There is one longest operator at most. -/
theorem Operator.IsLongestOf.eq {o other : Operator} (h : o.IsLongestOf chars)
    (hother : other.IsLongestOf chars) : o = other := by
  have hlength : o.spelling.toList.length = other.spelling.toList.length := by
    rw [String.length_toList, String.length_toList]
    exact Nat.le_antisymm (hother.length_le o h.begins) (h.length_le other hother.begins)
  have hspelling : o.spelling.toList = other.spelling.toList :=
    (List.prefix_of_prefix_length_le h.begins hother.begins
      (Nat.le_of_eq hlength)).eq_of_length hlength
  exact Operator.eq_of_spelling_eq (String.toList_inj.mp hspelling)

/-- The operator that is read is the longest that begins the characters. -/
theorem operator?_eq_some_iff {o : Operator} :
    operator? chars = some o ↔ o.IsLongestOf chars := by
  refine ⟨isLongestOf_of_operator?, fun h => ?_⟩
  obtain ⟨found, hfound⟩ : ∃ found, operator? chars = some found := by
    rw [← Option.isSome_iff_exists, operator?, List.find?_isSome]
    exact ⟨o, Operator.mem_all o, List.isPrefixOf_iff_prefix.mpr h.begins⟩
  rw [hfound, (isLongestOf_of_operator? hfound).eq h]

/-- An operator that is read begins the characters, and no longer one does. -/
theorem eq_append_of_operator? {o : Operator} (h : operator? chars = some o) :
    chars = o.spelling.toList ++ chars.drop o.spelling.length ∧
      (Token.op o).EndsBefore (chars.drop o.spelling.length) := by
  have hlongest := operator?_eq_some_iff.mp h
  obtain ⟨after, rfl⟩ := hlongest.begins
  have hdrop : (o.spelling.toList ++ after).drop o.spelling.length = after := by
    rw [← String.length_toList, List.drop_left]
  rw [hdrop]
  exact ⟨rfl, hlongest⟩

/-- The first characters that are in a class make up a word that goes as far as it can. -/
theorem run_of_first {p : Char → Bool} {first : Char} (hfirst : p first = true)
    (rest : List Char) :
    (first :: rest).takeWhile p = first :: rest.takeWhile p ∧
      first :: rest = first :: rest.takeWhile p ++ (first :: rest).dropWhile p ∧
      ∀ c ∈ rest.takeWhile p, p c = true := by
  have htake : (first :: rest).takeWhile p = first :: rest.takeWhile p := by
    rw [List.takeWhile_cons, if_pos hfirst]
  refine ⟨htake, ?_, List.all_eq_true.mp List.all_takeWhile⟩
  rw [← htake, List.takeWhile_append_dropWhile]

/-- What is read begins the characters, spells the token and goes as far as it can. -/
theorem spells_of_readToken {first : Char} {rest : List Char}
    (h : readToken first rest = .ok (token, after)) :
    ∃ word, first :: rest = word ++ after ∧ Spells word token ∧ token.EndsBefore after := by
  simp only [readToken] at h
  split at h
  · rename_i hdigit
    obtain ⟨htake, hsplit, hrun⟩ := run_of_first (isNumberChar_of_isDigit hdigit) rest
    split at h
    · rename_i x hvalue
      cases h
      rw [htake] at hvalue
      exact ⟨_, hsplit, .number hdigit hrun hvalue, fun c => eq_false_of_head?_dropWhile⟩
    · cases h
  split at h
  · rename_i hname
    obtain ⟨htake, hsplit, hrun⟩ := run_of_first (isNameChar_of_isNameStart hname) rest
    cases h
    rw [htake]
    exact ⟨_, hsplit, .name hname hrun, fun c => eq_false_of_head?_dropWhile⟩
  split at h
  · rename_i hquote
    split at h
    · rename_i contents after' hcontents
      cases h
      obtain ⟨body, rfl, hbody⟩ :=
        (textContents?_eq_some_iff (by rintro rfl; simp at hquote)).mp hcontents
      exact ⟨first :: (body ++ [first]), by simp, .text hquote hbody, trivial⟩
    · cases h
  split at h
  · rename_i hparen
    cases h
    exact ⟨['('], by rw [hparen]; rfl, .leftParen, trivial⟩
  split at h
  · rename_i hparen
    cases h
    exact ⟨[')'], by rw [hparen]; rfl, .rightParen, trivial⟩
  split at h
  · rename_i hdot
    cases h
    exact ⟨['.'], by rw [hdot]; rfl, .dot, trivial⟩
  split at h
  · rename_i o hoperator
    cases h
    obtain ⟨hsplit, hends⟩ := eq_append_of_operator? hoperator
    exact ⟨_, hsplit, .op o, hends⟩
  · cases h

/-- An operator is read where it is spelled, if it ends there. -/
theorem readToken_of_op {o : Operator} {first : Char} {others : List Char}
    (hspelling : o.spelling.toList = first :: others) (hafter : Token.EndsBefore after (.op o)) :
    readToken first (others ++ after) = .ok (.op o, after) := by
  have hoperator : operator? (first :: (others ++ after)) = some o := by
    rw [← List.cons_append, ← hspelling, operator?_eq_some_iff]
    exact hafter
  have hdrop : (first :: (others ++ after)).drop o.spelling.length = after := by
    rw [← List.cons_append, ← hspelling, ← String.length_toList, List.drop_left]
  have hother : first.isDigit = false ∧ isNameStart first = false ∧
      ¬ (first = '"' ∨ first = '\'') ∧ first ≠ '(' ∧ first ≠ ')' ∧ first ≠ '.' := by
    cases o <;> (cases hspelling; decide)
  obtain ⟨hdigit, hname, hquote, hleft, hright, hdot⟩ := hother
  simp only [readToken, hdigit, hname, if_neg hquote, if_neg hleft, if_neg hright, if_neg hdot,
    hoperator, hdrop, Bool.false_eq_true, if_false]

/-- Every spelling that goes as far as it can is read back as its token. -/
theorem readToken_of_spells {first : Char} {others : List Char}
    (h : Spells (first :: others) token) (hafter : token.EndsBefore after) :
    readToken first (others ++ after) = .ok (token, after) := by
  generalize hword : first :: others = word at h
  cases h with
  | number hfirst hothers hvalue =>
      cases hword
      have hnumber : ∀ c ∈ first :: others, isNumberChar c = true :=
        List.forall_mem_cons.mpr ⟨isNumberChar_of_isDigit hfirst, hothers⟩
      obtain ⟨htake, hdrop⟩ := span_of_head hnumber hafter
      rw [List.cons_append] at htake hdrop
      simp only [readToken, hfirst, if_true, htake, hdrop, hvalue]
  | name hfirst hothers =>
      cases hword
      have hname : ∀ c ∈ first :: others, isNameChar c = true :=
        List.forall_mem_cons.mpr ⟨isNameChar_of_isNameStart hfirst, hothers⟩
      obtain ⟨htake, hdrop⟩ := span_of_head hname hafter
      rw [List.cons_append] at htake hdrop
      simp only [readToken, isDigit_eq_false_of_isNameStart hfirst, hfirst, htake, hdrop,
        Bool.false_eq_true, if_true, if_false]
  | @text quote body contents hquote hbody =>
      cases hword
      have hcontents : textContents? first (body ++ [first] ++ after) = some (contents, after) :=
        (textContents?_eq_some_iff (by rintro rfl; simp at hquote)).mpr ⟨body, by simp, hbody⟩
      have hother : first.isDigit = false ∧ isNameStart first = false := by
        rcases hquote with rfl | rfl <;> decide
      simp only [readToken, hother.1, hother.2, if_pos hquote, hcontents, Bool.false_eq_true,
        if_false]
  | op o => exact readToken_of_op hword.symm hafter
  | leftParen | rightParen | dot =>
      cases hword
      rfl

/-! ## Reading a text -/

/-- From a position on, the characters are cut into words, which spell the placed tokens and go as
far as they can, and blank characters between them. -/
inductive Cut : Nat → List Char → List Placed → Prop
  | done {position : Nat} : Cut position [] []
  | blank {position : Nat} {c : Char} {chars : List Char} {placed : List Placed}
      (hc : isBlank c = true) (h : Cut (position + 1) chars placed) :
      Cut position (c :: chars) placed
  | word {position : Nat} {word chars : List Char} {token : Token} {placed : List Placed}
      (hword : Spells word token) (hends : token.EndsBefore chars)
      (h : Cut (position + word.length) chars placed) :
      Cut position (word ++ chars) (⟨position, token⟩ :: placed)

/-- Where the text can be cut into tokens, they are found. -/
theorem tokensFrom_of_cut (h : Cut position chars placed) (hfuel : chars.length ≤ fuel) :
    tokensFrom fuel position chars = .ok placed := by
  induction h generalizing fuel with
  | done => cases fuel <;> rfl
  | @blank position c chars placed hc _ ih =>
      obtain ⟨fuel, rfl⟩ : ∃ fuel', fuel = fuel' + 1 := ⟨fuel - 1, by simp at hfuel; omega⟩
      rw [tokensFrom, if_pos hc]
      exact ih (Nat.le_of_succ_le_succ hfuel)
  | @word position word chars token placed hword hends _ ih =>
      obtain ⟨first, others, rfl, hfirst⟩ := hword.exists_head
      obtain ⟨fuel, rfl⟩ : ∃ fuel', fuel = fuel' + 1 := ⟨fuel - 1, by simp at hfuel; omega⟩
      have hnext : (first :: (others ++ chars)).length - chars.length =
          (first :: others).length := by simp; omega
      have hrest : chars.length ≤ fuel := by simp at hfuel; omega
      rw [List.cons_append, tokensFrom, hfirst, readToken_of_spells hword hends]
      simp only [Bool.false_eq_true, if_false, hnext, ih hrest]

/-- The tokens that are found cut the text. -/
theorem cut_of_tokensFrom (h : tokensFrom fuel position chars = .ok placed)
    (hfuel : chars.length ≤ fuel) : Cut position chars placed := by
  fun_induction tokensFrom fuel position chars generalizing placed with
  | case1 position chars =>
      cases h
      obtain rfl : chars = [] := List.eq_nil_of_length_eq_zero (Nat.le_zero.mp hfuel)
      exact .done
  | case2 =>
      cases h
      exact .done
  | case3 fuel position first rest hblank ih =>
      exact .blank hblank (ih h (Nat.le_of_succ_le_succ hfuel))
  | case4 | case5 => cases h
  | case6 fuel position first rest _ token after hread next tokens htokens =>
      rename_i ih
      cases h
      obtain ⟨word, hword, hspells, hends⟩ := spells_of_readToken hread
      have hnext : next = position + word.length := by simp [next, hword]
      have hnonempty : 0 < word.length := by
        obtain ⟨_, _, rfl, _⟩ := hspells.exists_head
        exact Nat.succ_pos _
      rw [hword] at hfuel ⊢
      refine .word hspells hends (hnext ▸ ih htokens ?_)
      rw [List.length_append] at hfuel
      omega

/-- The tokens of a text are those of its cut into words. -/
theorem tokens?_eq_ok_iff {text : String} :
    tokens? text = .ok placed ↔ Cut 0 text.toList placed :=
  ⟨fun h => cut_of_tokensFrom h (Nat.le_of_eq String.length_toList),
    fun h => tokensFrom_of_cut h (Nat.le_of_eq String.length_toList)⟩

end Condition
end BranchingStory
