import Mathlib

/-!
# The order of floating-point numbers

Comparing and adding floating-point numbers goes through their unpacked form: a sign, a mantissa and
an exponent, or one of the special values.  The rank of a number orders the unpacked forms as
`compare` does.  A sum is packed again; packing changes no number that came from bits, and it keeps
what is not negative so.

Main results:

- `Floating.le_trans`: the order is transitive, also where something is not a number.
- `Floating.le_of_le_add_zero`: a zero of either sign adds nothing.
- `Floating.zero_le_add`: the sum of two numbers that are not negative is not negative.
- `Floating.lt_of_not_le`: of two numbers one is above the other or they are equal.
-/

namespace BranchingStory
namespace Floating

open Float.Model (UnpackedFloat Format)
open Float.Model.UnpackedFloat

/-! ## Ranks -/

/-- The rank of a number: first its class, from negative to positive infinity, then its exponent and
its mantissa.  What is not a number has no rank. -/
def rank? : UnpackedFloat → Option (ℤ ×ₗ ℤ ×ₗ ℤ)
  | .infinity .negative => some (toLex (-2, toLex (0, 0)))
  | .finite .negative mantissa exponent _ => some (toLex (-1, toLex (-exponent, -mantissa)))
  | .zero _ => some (toLex (0, toLex (0, 0)))
  | .finite .positive mantissa exponent _ => some (toLex (1, toLex (exponent, mantissa)))
  | .infinity .positive => some (toLex (2, toLex (0, 0)))
  | .notANumber => none

/-- Triples are compared by their first entries, then by the second, then by the third. -/
theorem compare_toLex (c c' e e' m m' : ℤ) :
    compare (toLex (c, toLex (e, m))) (toLex (c', toLex (e', m'))) =
      (compare c c').then ((compare e e').then (compare m m')) := by
  rw [Prod.Lex.compare_def]
  change (compare c c').then (compare (toLex (e, m)) (toLex (e', m'))) = _
  rw [Prod.Lex.compare_def]
  rfl

/-- Negation turns an order of integers around. -/
theorem compare_neg (a b : ℤ) : compare (-a) (-b) = compare b a := by
  simp [compare, compareOfLessAndEq, eq_comm]

/-- Natural numbers are compared as they are among the integers. -/
theorem compare_natCast (a b : ℕ) : compare (a : ℤ) (b : ℤ) = compare a b := by
  simp only [compare, compareOfLessAndEq, Int.ofNat_lt, Int.natCast_inj]

/-- Unpacked numbers are compared by their ranks. -/
theorem compare_eq (a b : UnpackedFloat) :
    a.compare b = (rank? a).bind fun r => (rank? b).map (compare r) := by
  rcases a with ⟨_ | _⟩ | _ | _ | ⟨_ | _, m, e, _⟩ <;>
    rcases b with ⟨_ | _⟩ | _ | _ | ⟨_ | _, m', e', _⟩ <;>
    simp only [UnpackedFloat.compare, rank?, Option.bind_some, Option.bind_none, Option.map_some,
      Option.map_none, compare_toLex, compare_neg, compare_natCast, Ordering.swap_then,
      Int.compare_swap, Nat.compare_swap] <;>
    rfl

/-- A number is below or at another one if its rank is. -/
theorem le_iff {x y : Float} :
    x ≤ y ↔
      ∃ r r', rank? x.toModel.unpack = some r ∧ rank? y.toModel.unpack = some r' ∧ r ≤ r' := by
  change decide ((x.toModel.unpack.compare y.toModel.unpack).any (·.isLE) = true) = true ↔ _
  rw [decide_eq_true_iff, compare_eq]
  cases hx : rank? x.toModel.unpack with
  | none => simp
  | some r =>
      cases hy : rank? y.toModel.unpack with
      | none => simp
      | some r' => simp [← compare_le_iff_le, Ordering.isLE_iff_ne_gt]

/-- Floating-point numbers are ordered by their ranks, and one without a rank is below none. -/
theorem lt_iff {x y : Float} :
    x < y ↔
      ∃ r r', rank? x.toModel.unpack = some r ∧ rank? y.toModel.unpack = some r' ∧ r < r' := by
  change decide ((x.toModel.unpack.compare y.toModel.unpack == some .lt) = true) = true ↔ _
  rw [decide_eq_true_iff, compare_eq]
  cases hx : rank? x.toModel.unpack with
  | none => simp
  | some r =>
      cases hy : rank? y.toModel.unpack with
      | none => simp
      | some r' => simp [compare_lt_iff_lt]

/-- The order is transitive. -/
theorem le_trans {x y z : Float} (hxy : x ≤ y) (hyz : y ≤ z) : x ≤ z := by
  obtain ⟨r, s, hx, hy, hrs⟩ := le_iff.mp hxy
  obtain ⟨s', t, hy', hz, hst⟩ := le_iff.mp hyz
  obtain rfl : s = s' := Option.some.inj (hy.symm.trans hy')
  exact le_iff.mpr ⟨r, t, hx, hz, hrs.trans hst⟩

/-- A smaller number is not at least as large. -/
theorem not_le_of_lt {x y : Float} (h : x < y) : ¬ y ≤ x := by
  intro hle
  obtain ⟨r, s, hx, hy, hrs⟩ := lt_iff.mp h
  obtain ⟨s', r', hy', hx', hsr⟩ := le_iff.mp hle
  obtain rfl : r = r' := Option.some.inj (hx.symm.trans hx')
  obtain rfl : s = s' := Option.some.inj (hy.symm.trans hy')
  exact absurd hrs hsr.not_gt

/-- Of two numbers, one that is not at or below the other is above it.  What is above or at
something is a number. -/
theorem lt_of_not_le {w x y z : Float} (hx : w < x) (hy : z ≤ y) (h : ¬ x ≤ y) : y < x := by
  obtain ⟨-, r, -, hx, -⟩ := lt_iff.mp hx
  obtain ⟨-, s, -, hy, -⟩ := le_iff.mp hy
  refine lt_iff.mpr ⟨s, r, hy, hx, lt_of_not_ge fun hrs => ?_⟩
  exact h (le_iff.mpr ⟨r, s, hx, hy, hrs⟩)

/-! ## Packing -/

/-- An exponent that fits is not the one of all ones, which marks the special values. -/
theorem ofNat_ne_neg_one {biased : ℕ} (h : ¬ 2 ^ 11 ≤ biased + 1) :
    BitVec.ofNat 11 biased ≠ -1#11 := by
  intro hones
  have hvalue := congrArg BitVec.toNat hones
  rw [BitVec.toNat_ofNat, Nat.mod_eq_of_lt (by omega)] at hvalue
  have : (-1#11).toNat = 2 ^ 11 - 1 := rfl
  omega

/-- Packing does not change a number. -/
theorem unpack_pack_unpack (x : Float) :
    unpack .binary64 (pack .binary64 x.toModel.unpack) = x.toModel.unpack :=
  congrArg (unpack .binary64) (pack_unpack_of_valid x.toModel.valid)

/-- What is not negative.  A zero counts with either sign. -/
inductive IsNonneg : UnpackedFloat → Prop
  | infinity : IsNonneg (.infinity .positive)
  | zero (sign : Sign) : IsNonneg (.zero sign)
  | finite {mantissa : ℕ} {exponent : ℤ} (h : 0 < mantissa) :
      IsNonneg (.finite .positive mantissa exponent h)

/-- What is not negative has the rank of zero or a greater one. -/
theorem isNonneg_iff {a : UnpackedFloat} :
    IsNonneg a ↔ ∃ r, rank? a = some r ∧ toLex (0, toLex (0, 0)) ≤ r := by
  constructor
  · intro h
    cases h with
    | infinity => exact ⟨_, rfl, by decide⟩
    | zero _ => exact ⟨_, rfl, le_refl _⟩
    | finite _ => exact ⟨_, rfl, Prod.Lex.toLex_le_toLex.mpr (Or.inl Int.zero_lt_one)⟩
  · rintro ⟨r, hr, hle⟩
    cases a with
    | infinity sign =>
        cases sign with
        | positive => exact .infinity
        | negative =>
            obtain rfl := Option.some.inj hr
            exact absurd hle (by decide)
    | notANumber => cases hr
    | zero sign => exact .zero sign
    | finite sign mantissa exponent hpos =>
        cases sign with
        | positive => exact .finite hpos
        | negative =>
            obtain rfl := Option.some.inj hr
            have hbelow : toLex (-1, toLex (-exponent, -(mantissa : ℤ))) <
                toLex (0, toLex (0, 0)) :=
              Prod.Lex.toLex_lt_toLex.mpr (Or.inl (show (-1 : ℤ) < 0 by decide))
            exact absurd hle hbelow.not_ge

/-- The numbers from zero on are those without a negative sign, zeros of either sign included. -/
theorem zero_le_iff {x : Float} : 0 ≤ x ↔ IsNonneg x.toModel.unpack := by
  have hzero : rank? (0 : Float).toModel.unpack = some (toLex (0, toLex (0, 0))) := rfl
  rw [le_iff, isNonneg_iff, hzero]
  simp

/-- Rounding does not make a number negative. -/
theorem isNonneg_normalize {spec : Format} {mantissa exponent : ℤ} (h : 0 ≤ mantissa) :
    IsNonneg (UnpackedFloat.normalize spec mantissa exponent .positive) := by
  unfold UnpackedFloat.normalize
  split
  · rename_i hlt
    exact absurd (compare_lt_iff_lt.mp hlt) h.not_gt
  · exact .zero _
  · unfold UnpackedFloat.round roundWithAccuracy
    dsimp only
    split
    · exact .zero _
    · exact .finite _

/-- Adding keeps what is not negative so, before the sum is packed. -/
theorem isNonneg_add {spec : Format} {a b : UnpackedFloat} (ha : IsNonneg a) (hb : IsNonneg b) :
    IsNonneg (add spec a b) := by
  cases ha with
  | infinity => cases hb <;> exact .infinity
  | zero sign =>
      cases hb with
      | infinity => exact .infinity
      | zero sign' => cases sign <;> cases sign' <;> exact .zero _
      | finite h => exact .finite h
  | finite h =>
      cases hb with
      | infinity => exact .infinity
      | zero _ => exact .finite h
      | finite _ => exact isNonneg_normalize (Int.natCast_nonneg _)

/-- Components with a positive sign are those of a number that is not negative. -/
theorem unpack_packComponents_isNonneg {exponent : BitVec 11} {mantissa : BitVec 52}
    (h : exponent ≠ -1#11) :
    IsNonneg (unpack .binary64 (packComponents .binary64 .positive exponent mantissa)) := by
  simp only [unpack, unpackMantissa_packComponents, unpackExponent_packComponents,
    unpackSign_packComponents, Sign.ofBitVec_toBitVec]
  rw [if_neg h]
  split
  · split
    · exact .zero _
    · exact .finite _
  · exact .finite _

/-- Packing keeps what is not negative so. -/
theorem isNonneg_unpack_pack {a : UnpackedFloat} (h : IsNonneg a) :
    IsNonneg (unpack .binary64 (pack .binary64 a)) := by
  cases h with
  | infinity => exact .infinity
  | zero sign => cases sign <;> exact .zero _
  | finite _ =>
      unfold pack
      dsimp only
      split
      · exact .infinity
      · rename_i hfits
        split
        · exact unpack_packComponents_isNonneg (ofNat_ne_neg_one hfits)
        · exact unpack_packComponents_isNonneg (by decide)

/-! ## Sums -/

/-- A sum is the sum of the unpacked numbers, packed and unpacked again. -/
theorem unpack_add (x y : Float) :
    (x + y).toModel.unpack =
      unpack .binary64 (pack .binary64 (add .binary64 x.toModel.unpack y.toModel.unpack)) :=
  rfl

/-- The sum of two numbers that are not negative is not negative. -/
theorem zero_le_add {x y : Float} (hx : 0 ≤ x) (hy : 0 ≤ y) : 0 ≤ x + y := by
  rw [zero_le_iff] at hx hy ⊢
  rw [unpack_add]
  exact isNonneg_unpack_pack (isNonneg_add hx hy)

/-- What equals zero is a zero of one sign or the other. -/
theorem unpack_eq_zero_of_beq {z : Float} (h : (z == 0) = true) :
    ∃ sign, z.toModel.unpack = .zero sign := by
  obtain ⟨-, -, rfl | ⟨rfl, -⟩ | ⟨rfl, -⟩⟩ := Float.beq_iff_ne_nan_and_eq.mp h
  · exact ⟨.positive, rfl⟩
  · exact ⟨.positive, rfl⟩
  · exact ⟨.negative, rfl⟩

/-- Adding a zero changes nothing but the sign of a zero. -/
theorem add_zero (spec : Format) (a : UnpackedFloat) (sign : Sign) :
    (∃ s s', a = .zero s ∧ add spec a (.zero sign) = .zero s') ∨ add spec a (.zero sign) = a := by
  rcases a with s | _ | s | _
  · exact Or.inr rfl
  · exact Or.inr rfl
  · cases s <;> cases sign <;> exact Or.inl ⟨_, _, rfl, rfl⟩
  · exact Or.inr rfl

/-- So a sum with a zero has the rank of the other number. -/
theorem rank?_add_zero {y z : Float} (h : (z == 0) = true) :
    rank? (y + z).toModel.unpack = rank? y.toModel.unpack := by
  obtain ⟨sign, hz⟩ := unpack_eq_zero_of_beq h
  rw [unpack_add, hz]
  rcases add_zero .binary64 y.toModel.unpack sign with ⟨s, s', hy, hsum⟩ | hsum
  · rw [hsum, hy]
    cases s' <;> rfl
  · rw [hsum]
    exact congrArg rank? (unpack_pack_unpack _)

/-- A zero of either sign adds nothing. -/
theorem le_of_le_add_zero {x y z : Float} (hz : (z == 0) = true) (h : x ≤ y + z) : x ≤ y := by
  rw [le_iff, rank?_add_zero hz] at h
  exact le_iff.mpr h

end Floating
end BranchingStory
