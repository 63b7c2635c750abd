import BranchingStory.Json.Reader
import Mathlib.Tactic.SplitIfs

/-!
# Texts and integers are read back

What is written for a text or an integer is read back, with whatever comes after it.  A text ends at
its closing quote, as quotes inside it are escaped.  An integer has no end of its own: it is read
back where no digit, point or exponent comes next.

Main results:

- `readStringFrom_text`: a text is read back up to its closing quote.
- `readNumber_integer`: an integer is read back up to a character that ends it.
-/

namespace BranchingStory
namespace Json

variable {rest : List Char} {fuel : Nat}

/-! ## Texts -/

/-- The characters of a text as they stand between the quotes. -/
def escaped (chars : List Char) : List Char :=
  chars.flatMap fun c => (writeChar c).toList

/-- A written text is its escaped characters between quotes. -/
theorem toList_writeText (s : String) :
    (writeText s).toList = '"' :: (escaped s.toList ++ ['"']) := by
  have hfold : ∀ (chars : List Char) (out : String),
      (chars.foldl (fun out c => out ++ writeChar c) out).toList =
        out.toList ++ escaped chars := by
    intro chars
    induction chars with
    | nil => simp [escaped]
    | cons c chars ih =>
        intro out
        rw [List.foldl_cons, ih, String.toList_append, List.append_assoc]
        rfl
  rw [writeText, String.toList_append, hfold]
  rfl

/-- A hexadecimal digit has the value that it is written for. -/
theorem hexValue?_hexDigit {n : Nat} (h : n < 16) : hexValue? (hexDigit n) = some n := by
  decide +revert

/-- Two hexadecimal digits behind two zeros are a character code. -/
theorem readEscape_code {n : Nat} (h : n < 0x20) (rest : List Char) :
    readEscape ('u' :: '0' :: '0' :: hexDigit (n / 16) :: hexDigit (n % 16) :: rest) =
      some (some (Char.ofNat n), rest) := by
  have hzero : hexValue? '0' = some 0 := by decide
  have hhigh := hexValue?_hexDigit (show n / 16 < 16 by omega)
  have hlow := hexValue?_hexDigit (show n % 16 < 16 by omega)
  have hread : readHex4 ('0' :: '0' :: hexDigit (n / 16) :: hexDigit (n % 16) :: rest) =
      some (n, rest) := by
    have hcode : ((0 * 16 + 0) * 16 + n / 16) * 16 + n % 16 = n := by omega
    simp [readHex4, hzero, hhigh, hlow]
    omega
  have hbelow : ¬ (0xd800 ≤ n ∧ n < 0xdc00) ∧ ¬ (0xdc00 ≤ n ∧ n < 0xe000) := by omega
  simp only [readEscape, hread, if_neg hbelow.1, if_neg hbelow.2]

/-- A written character is read back. -/
theorem readStringFrom_writeChar (c : Char) (sofar : List Char) (rest : List Char) :
    readStringFrom (fuel + 1) (some sofar) ((writeChar c).toList ++ rest) =
      readStringFrom fuel (some (c :: sofar)) rest := by
  unfold writeChar
  split_ifs with hquote hbackslash hb ht hn hf hr hcontrol
  · subst hquote
    rfl
  · subst hbackslash
    rfl
  · subst hb
    rfl
  · subst ht
    rfl
  · subst hn
    rfl
  · subst hf
    rfl
  · subst hr
    rfl
  · have hread := readEscape_code hcontrol rest
    rw [Char.ofNat_toNat] at hread
    simp [readStringFrom, hread]
  · simp [readStringFrom, hquote, hbackslash, hcontrol, Char.toString]

/-- Every character is written with at least one. -/
theorem length_writeChar_pos (c : Char) : 0 < (writeChar c).toList.length := by
  unfold writeChar
  split_ifs <;> simp [Char.toString]

/-- Escaped characters are read back behind those that have been read. -/
theorem readStringFrom_escaped (chars sofar : List Char) (rest : List Char)
    (hfuel : (escaped chars).length < fuel) :
    readStringFrom fuel (some sofar) (escaped chars ++ '"' :: rest) =
      some (some (String.ofList (sofar.reverse ++ chars)), rest) := by
  induction chars generalizing fuel sofar with
  | nil =>
      obtain ⟨fuel, rfl⟩ := Nat.exists_eq_succ_of_ne_zero (Nat.ne_of_gt hfuel)
      simp [escaped, readStringFrom]
  | cons c chars ih =>
      have hchar := length_writeChar_pos c
      rw [escaped, List.flatMap_cons, List.length_append] at hfuel
      obtain ⟨fuel, rfl⟩ : ∃ fuel', fuel = fuel' + 1 := ⟨fuel - 1, by omega⟩
      rw [escaped, List.flatMap_cons, List.append_assoc, readStringFrom_writeChar]
      refine (ih (c :: sofar) ?_).trans ?_
      · rw [escaped]
        omega
      · rw [List.reverse_cons, List.append_assoc]
        rfl

/-- A text is read back up to its closing quote. -/
theorem readStringFrom_text (s : String) (rest : List Char) :
    readStringFrom ((escaped s.toList ++ '"' :: rest).length + 1) (some [])
      (escaped s.toList ++ '"' :: rest) = some (some s, rest) := by
  rw [readStringFrom_escaped _ _ _ (by rw [List.length_append]; omega), List.reverse_nil,
    List.nil_append, String.ofList_toList]

/-! ## Integers -/

/-- Nothing that comes after a value belongs to it. -/
def Closes (rest : List Char) : Prop :=
  ∀ c, rest.head? = some c → c = ',' ∨ c = ']' ∨ c = '}'

/-- A comma, a bracket or a brace closes what comes before it. -/
theorem closes_cons {c : Char} (hc : c = ',' ∨ c = ']' ∨ c = '}') (rest : List Char) :
    Closes (c :: rest) := by
  rintro _ ⟨⟩
  exact hc

/-- What closes a number is no digit. -/
theorem Closes.not_isDigit (h : Closes rest) : ∀ c, rest.head? = some c → c.isDigit = false := by
  intro c hc
  rcases h c hc with rfl | rfl | rfl <;> decide

/-- The digits of a number are read up to its end. -/
theorem readDigits_toDigits (h : Closes rest) (n : Nat) :
    readDigits (Nat.toDigits 10 n ++ rest) =
      ((Nat.toDigits 10 n).map fun c => c.toNat - '0'.toNat, rest) := by
  have hdigits : ∀ c ∈ Nat.toDigits 10 n, c.isDigit = true :=
    fun c hc => Nat.isDigit_of_mem_toDigits (by decide) (by decide) hc
  unfold readDigits
  rw [List.takeWhile_append_of_pos hdigits, List.dropWhile_append_of_pos hdigits]
  cases rest with
  | nil => simp
  | cons c rest => simp [h.not_isDigit c rfl]

/-- They have its value. -/
theorem digitsToNat_toDigits (n : Nat) :
    digitsToNat ((Nat.toDigits 10 n).map fun c => c.toNat - '0'.toNat) = n := by
  rw [digitsToNat, List.foldl_map, ← Nat.ofDigitChars_eq_foldl, Nat.ofDigitChars_ten_toDigits]

/-- Only the number zero is written with a zero in front. -/
theorem toDigits_head_ne_zero {n : Nat} (h : n ≠ 0) :
    (Nat.toDigits 10 n).head? ≠ some '0' := by
  induction n using Nat.strongRecOn with
  | ind n ih =>
      rw [Nat.toDigits_eq_if (by decide)]
      split
      · rename_i hlt
        have hdigit : ∀ m < 10, m ≠ 0 → [m.digitChar].head? ≠ some '0' := by decide
        exact hdigit n hlt h
      · rename_i hge
        rw [List.head?_append, Option.or_of_isSome]
        · exact ih (n / 10) (by omega) (by omega)
        · rw [List.isSome_head?]
          exact Nat.toDigits_ne_nil

/-- A number with several digits does not begin with a zero. -/
theorem toDigits_ne_zero_cons {n : Nat} {c d : Char} {digits : List Char}
    (h : Nat.toDigits 10 n = c :: d :: digits) : c.toNat - '0'.toNat ≠ 0 := by
  intro hzero
  have hdigit : c.isDigit = true :=
    Nat.isDigit_of_mem_toDigits (by decide) (by decide) (h ▸ List.mem_cons_self)
  have hcode : 48 ≤ c.toNat := of_decide_eq_true (Bool.and_eq_true_iff.mp hdigit).1
  have hc : c = '0' := by
    rw [← Char.toNat_inj]
    exact Nat.le_antisymm (Nat.le_of_sub_eq_zero hzero) hcode
  subst hc
  by_cases hn : n = 0
  · subst hn
    cases h
  · exact toDigits_head_ne_zero hn (by rw [h]; rfl)

/-- The digits of a number are read as the number. -/
theorem readWhole_toDigits (h : Closes rest) (n : Nat) :
    readWhole (Nat.toDigits 10 n ++ rest) = some (n, rest) := by
  have hvalue := digitsToNat_toDigits n
  unfold readWhole
  rw [readDigits_toDigits h]
  split
  · rename_i heq
    exact absurd (List.map_eq_nil_iff.mp (congrArg Prod.fst heq)) Nat.toDigits_ne_nil
  · rename_i heq
    obtain ⟨c, others, hdigits, hc, hothers⟩ := List.map_eq_cons_iff.mp (congrArg Prod.fst heq)
    obtain ⟨d, digits, rfl, -, -⟩ := List.map_eq_cons_iff.mp hothers
    exact absurd hc (toDigits_ne_zero_cons hdigits)
  · rename_i heq
    cases heq
    rw [hvalue]

/-- A number that ends has no fraction. -/
theorem readFraction_of_closes (h : Closes rest) : readFraction rest = some (none, rest) := by
  unfold readFraction
  split
  · rcases h '.' rfl with hc | hc | hc <;> cases hc
  · rfl

/-- A number that ends has no exponent. -/
theorem readExponent_of_closes (h : Closes rest) : readExponent rest = some (none, rest) := by
  cases rest with
  | nil => rfl
  | cons c rest =>
      have hc : ¬ (c = 'e' ∨ c = 'E') := by
        rcases h c rfl with rfl | rfl | rfl <;> decide
      rw [readExponent, if_neg hc]

/-- A magnitude is read back as an integer, unless it is that of minus zero. -/
theorem readMagnitude_toDigits (h : Closes rest) {negative : Bool} {n : Nat}
    (hzero : negative = true → n ≠ 0) :
    readMagnitude negative (Nat.toDigits 10 n ++ rest) =
      some (.integer (if negative then -n else n), rest) := by
  simpa [readMagnitude, readWhole_toDigits h, readFraction_of_closes h, readExponent_of_closes h]
    using hzero

/-- An integer is written as its digits, with a minus sign in front when it is negative. -/
theorem toList_text_integer (n : Int) :
    (Number.text (.integer n)).toList =
      if 0 ≤ n then Nat.toDigits 10 n.toNat else '-' :: Nat.toDigits 10 (-n).toNat := by
  rw [Number.text, Int.toString_eq_repr, Int.repr_eq_if]
  split
  · exact Nat.toList_repr
  · rw [String.toList_append, Nat.toList_repr]
    rfl

/-- A number has at least one digit. -/
theorem exists_toDigits_eq_cons (n : Nat) :
    ∃ c digits, Nat.toDigits 10 n = c :: digits ∧ c.isDigit = true := by
  obtain ⟨c, digits, hdigits⟩ := List.exists_cons_of_ne_nil (Nat.toDigits_ne_nil (n := n) (b := 10))
  exact ⟨c, digits, hdigits,
    Nat.isDigit_of_mem_toDigits (by decide) (by decide) (hdigits ▸ List.mem_cons_self)⟩

/-- An integer is read back up to a character that ends it. -/
theorem readNumber_integer (h : Closes rest) (n : Int) :
    readNumber ((Number.text (.integer n)).toList ++ rest) = some (.integer n, rest) := by
  rw [toList_text_integer]
  split
  · rename_i hn
    have hread := readMagnitude_toDigits (n := n.toNat) h (show false = true → _ from nofun)
    rw [if_neg Bool.false_ne_true, Int.toNat_of_nonneg hn] at hread
    obtain ⟨c, digits, hdigits, hc⟩ := exists_toDigits_eq_cons n.toNat
    rw [hdigits, List.cons_append] at hread ⊢
    unfold readNumber
    split
    · rename_i heq
      cases heq
      cases hc
    · exact hread
  · rename_i hn
    rw [List.cons_append, readNumber, readMagnitude_toDigits h (fun _ => by omega), if_pos rfl,
      Int.toNat_of_nonneg (by omega), Int.neg_neg]

end Json
end BranchingStory
