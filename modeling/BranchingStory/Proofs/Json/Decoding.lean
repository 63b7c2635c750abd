import BranchingStory.Json.Decode
import BranchingStory.Proofs.Json.Scalars

/-!
# Decoding what was encoded

A list is decoded if its items are, a value that may be absent if it is, and an amount is decoded
from its integer.  An integer of up to 64 bits is readable also where it is only skipped: all of its
digits are kept, so nothing has to be scaled.

Main results:

- `asList?_map`, `optional_orNull`: lists and optional values from their parts.
- `isReadable_int`: an integer of up to 64 bits is readable.
-/

namespace BranchingStory
namespace Json

/-! ## Values of fields -/

/-- A list is read if its items are. -/
theorem asList?_map {α : Type} {f : α → Json} {item : Json → Option α}
    (h : ∀ a, item (f a) = some a) (l : List α) :
    asList? item (.array (l.map f)) = some l := by
  induction l with
  | nil => rfl
  | cons a l ih =>
      rw [asList?] at ih ⊢
      rw [List.map_cons, List.mapM_cons, h, ih]
      rfl

/-- An array of texts is decoded as the texts. -/
theorem asList?_texts (l : List String) : asList? asText? (.texts l) = some l :=
  asList?_map (f := .text) (fun _ => rfl) l

/-- The integer of an amount is decoded as the amount. -/
theorem asAmount?_int (a : Amount) : asAmount? (.int a.toInt) = some a :=
  Amount.ofInt?_toInt a

/-- What may be absent is decoded as it is, if `null` stands for nothing else. -/
theorem optional_orNull {α : Type} {f : α → Json} {value : Json → Option α}
    (h : ∀ a, value (f a) = some a) (hnull : ∀ a, f a ≠ .null) (o : Option α) :
    optional value (some (orNull f o)) = some o := by
  cases o with
  | none => rfl
  | some a =>
      have hvalue : asOption? value (f a) = (value (f a)).map some := by
        unfold asOption?
        split
        · rename_i heq
          exact absurd heq (hnull a)
        · rfl
      rw [optional, withDefault, orNull, hvalue, h]
      rfl

/-- A text that may be absent is decoded as it is. -/
theorem optional_textOrNull (s : Option String) :
    optional asText? (some (textOrNull s)) = some s :=
  optional_orNull (f := .text) (fun _ => rfl) nofun s

/-! ## Integers -/

/-- More digits do not make a number smaller. -/
theorem le_foldl_digits (digits : List Nat) (m : Nat) :
    m ≤ digits.foldl (fun n d => 10 * n + d) m := by
  induction digits generalizing m with
  | nil => exact Nat.le_refl m
  | cons d digits ih => exact Nat.le_trans (by omega) (ih (10 * m + d))

/-- Digits that fit into 64 bits are all kept. -/
theorem Significand.appendWhole_of_fits {digits : List Nat} {m : Nat} {e : Int}
    (h : digits.foldl (fun n d => 10 * n + d) m < UInt64.size) :
    (Significand.mk m e).appendWhole digits =
      ⟨digits.foldl (fun n d => 10 * n + d) m, e⟩ := by
  induction digits generalizing m with
  | nil => rfl
  | cons d digits ih =>
      have hfits : (Significand.mk m e).fits d = true :=
        decide_eq_true (Nat.lt_of_le_of_lt (le_foldl_digits digits (10 * m + d)) h)
      rw [appendWhole, if_pos hfits]
      exact ih h

/-- The digits of a number have its value. -/
theorem digitsToNat_digitsOf (n : Nat) : digitsToNat (digitsOf n) = n := by
  rw [digitsOf, Nat.toString_eq_ofList_toDigits, String.toList_ofList, digitsToNat_toDigits]

/-- An integer of up to 64 bits is readable. -/
theorem isReadable_int {n : Int} (h : n.natAbs < UInt64.size) (depth : Nat) :
    isReadable depth (.int n) = true := by
  have hdigits : (Significand.mk 0 0).appendWhole (digitsOf n.natAbs) = ⟨n.natAbs, 0⟩ := by
    have hvalue := digitsToNat_digitsOf n.natAbs
    rw [digitsToNat] at hvalue
    rw [Significand.appendWhole_of_fits (by rwa [hvalue]), hvalue]
  have hread : isReadable depth (.int n) = (Number.toFloat? (.integer n)).isSome := by
    cases depth <;> rfl
  rw [hread, Number.toFloat?, hdigits, Option.isSome_map, Significand.toFloat?, if_pos (Or.inr rfl)]
  rfl

/-- An amount can be read as a number. -/
theorem isReadable_amount (a : Amount) (depth : Nat) : isReadable depth (.int a.toInt) = true := by
  have hlow := a.minValue_le_toInt
  have hhigh := a.toInt_le
  have hmin : Int32.minValue.toInt = -2147483648 := by decide
  have hmax : Int32.maxValue.toInt = 2147483647 := by decide
  refine isReadable_int ?_ depth
  rw [UInt64.size]
  omega

end Json
end BranchingStory
