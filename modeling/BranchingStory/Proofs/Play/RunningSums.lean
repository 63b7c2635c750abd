import BranchingStory.Play.Chance
import BranchingStory.Proofs.Number.Order

/-!
# Which weight a draw selects

A draw is compared with the running sums of the weights, added from the left.  The first one that
reaches the draw decides; if none does, the last weight is selected.  Negative weights make the
running sums go down again, but a sum that was reached before has decided already.

Main results:

- `Chance.select_eq_some_iff`: what is selected, said without the loop.
- `Chance.Selects.le_of_le`: a greater draw never selects an earlier weight.
- `Chance.Selects.fallback_of_adds_nothing`: a weight that adds nothing is only the fallback.
- `Chance.selects_by_running_sums`: what is selected among the entries of a chance table.
-/

namespace BranchingStory
namespace Chance

/-! ## Running sums -/

section RunningSums

variable {α : Type} [Add α] {weights : List α} {draw draw' sum : α} {i j : Nat}

/-- A sum and the weights up to and including a position, added from the left. -/
def sumThrough (sum : α) (weights : List α) (i : Nat) : α :=
  (weights.take (i + 1)).foldl (· + ·) sum

/-- The sum through the first position is that of the first weight. -/
theorem sumThrough_zero (h : 0 < weights.length) : sumThrough sum weights 0 = sum + weights[0] := by
  cases weights with
  | nil => exact absurd h (Nat.lt_irrefl 0)
  | cons weight rest => rfl

/-- The sum through the next position has one weight more. -/
theorem sumThrough_succ (h : i + 1 < weights.length) :
    sumThrough sum weights (i + 1) = sumThrough sum weights i + weights[i + 1] := by
  unfold sumThrough
  rw [List.take_succ_eq_append_getElem h, List.foldl_append]
  rfl

/-! ## Selected positions -/

variable [LE α] [OfNat α 0]

/-- A draw selects the first position whose running sum reaches it, or the last position if no
running sum does. -/
inductive Selects (weights : List α) (draw : α) (i : Nat) : Prop
  | reached (hi : i < weights.length) (hreach : draw ≤ sumThrough 0 weights i)
      (hfirst : ∀ j < i, ¬ draw ≤ sumThrough 0 weights j) : Selects weights draw i
  | fallback (hlast : i + 1 = weights.length)
      (hnone : ∀ j < weights.length, ¬ draw ≤ sumThrough 0 weights j) : Selects weights draw i

namespace Selects

/-- A position that is selected is one of the list. -/
theorem lt_length (h : Selects weights draw i) : i < weights.length := by
  cases h with
  | reached hi _ _ => exact hi
  | fallback hlast _ => omega

/-- A draw selects one position only. -/
theorem eq (h : Selects weights draw i) (h' : Selects weights draw j) : i = j := by
  rcases h with ⟨hi, hreach, hfirst⟩ | ⟨hlast, hnone⟩
  · rcases h' with ⟨hj, hreach', hfirst'⟩ | ⟨-, hnone'⟩
    · exact Nat.le_antisymm (Nat.le_of_not_lt fun hlt => hfirst j hlt hreach')
        (Nat.le_of_not_lt fun hlt => hfirst' i hlt hreach)
    · exact absurd hreach (hnone' i hi)
  · rcases h' with ⟨hj, hreach', -⟩ | ⟨hlast', -⟩
    · exact absurd hreach' (hnone j hj)
    · omega

/-- A greater draw never selects an earlier position, whatever the weights are. -/
theorem le_of_le (htrans : ∀ a b c : α, a ≤ b → b ≤ c → a ≤ c) (h : Selects weights draw i)
    (h' : Selects weights draw' j) (hle : draw ≤ draw') : i ≤ j := by
  cases h' with
  | fallback hlast _ =>
      have hi := h.lt_length
      omega
  | reached hj hreach' _ =>
      have hreach := htrans _ _ _ hle hreach'
      cases h with
      | reached _ _ hfirst => exact Nat.le_of_not_lt fun hlt => hfirst j hlt hreach
      | fallback _ hnone => exact absurd hreach (hnone j hj)

/-- A weight that adds nothing is selected only as the fallback: where its own running sum reaches a
draw, the one before it does so too. -/
theorem fallback_of_adds_nothing (h : Selects weights draw i) (hpositive : ¬ draw ≤ 0)
    (hnothing : ∀ (hi : i < weights.length) (a : α), draw ≤ a + weights[i] → draw ≤ a) :
    i + 1 = weights.length ∧ ∀ j < weights.length, ¬ draw ≤ sumThrough 0 weights j := by
  cases h with
  | fallback hlast hnone => exact ⟨hlast, hnone⟩
  | reached hi hreach hfirst =>
      exfalso
      cases i with
      | zero =>
          rw [sumThrough_zero hi] at hreach
          exact hpositive (hnothing hi 0 hreach)
      | succ j =>
          rw [sumThrough_succ hi] at hreach
          exact hfirst j (Nat.lt_succ_self j) (hnothing hi _ hreach)

end Selects

/-! ## The selection -/

variable [DecidableLE α]

omit [OfNat α 0] in
/-- The position that is found is the least one whose running sum reaches the draw. -/
theorem firstReaching_eq_find? (draw sum : α) (weights : List α) :
    firstReaching draw sum weights =
      (List.range weights.length).find? fun i => decide (draw ≤ sumThrough sum weights i) := by
  induction weights generalizing sum with
  | nil => rfl
  | cons weight rest ih =>
      rw [firstReaching, ih, List.length_cons, List.range_succ_eq_map, List.find?_cons,
        List.find?_map]
      by_cases hreach : draw ≤ sum + weight
      · have hfirst : decide (draw ≤ sumThrough sum (weight :: rest) 0) = true :=
          decide_eq_true hreach
        rw [if_pos hreach, hfirst]
      · have hfirst : decide (draw ≤ sumThrough sum (weight :: rest) 0) = false :=
          decide_eq_false hreach
        rw [if_neg hreach, hfirst]
        rfl

/-- The position that is computed is selected. -/
theorem selects_of_select (h : select weights draw = some i) : Selects weights draw i := by
  cases weights with
  | nil => cases h
  | cons weight rest =>
      have hselect : select (weight :: rest) draw =
          some ((firstReaching draw 0 (weight :: rest)).getD rest.length) := rfl
      rw [hselect, firstReaching_eq_find?] at h
      cases hfirst : (List.range (weight :: rest).length).find? fun i =>
          decide (draw ≤ sumThrough 0 (weight :: rest) i) with
      | some k =>
          rw [hfirst] at h
          obtain rfl := Option.some.inj h
          obtain ⟨hreach, hk, hbefore⟩ := List.find?_range_eq_some.mp hfirst
          refine .reached (List.mem_range.mp hk) (of_decide_eq_true hreach) fun j hj => ?_
          simpa using hbefore j hj
      | none =>
          rw [hfirst] at h
          obtain rfl := Option.some.inj h
          refine .fallback rfl fun j hj => ?_
          simpa using List.find?_range_eq_none.mp hfirst j hj

/-- What is selected, said without the loop. -/
theorem select_eq_some_iff : select weights draw = some i ↔ Selects weights draw i := by
  refine ⟨selects_of_select, fun h => ?_⟩
  have hne : weights ≠ [] := List.ne_nil_of_length_pos (Nat.zero_lt_of_lt h.lt_length)
  obtain ⟨k, hk⟩ := Option.isSome_iff_exists.mp (select_isSome hne draw)
  rw [hk, (selects_of_select hk).eq h]

end RunningSums

/-! ## Floating-point weights -/

variable {weights : List Float} {draw sum : Float} {i : Nat}

/-- Weights that are not negative have such a sum. -/
theorem zero_le_foldl_add (hsum : 0 ≤ sum) (h : ∀ weight ∈ weights, 0 ≤ weight) :
    0 ≤ weights.foldl (· + ·) sum := by
  induction weights generalizing sum with
  | nil => exact hsum
  | cons weight rest ih =>
      have hnext := Floating.zero_le_add hsum (h weight List.mem_cons_self)
      exact ih hnext fun other hother => h other (List.mem_cons_of_mem _ hother)

/-- With weights that are not negative, a weight of zero is selected by a positive draw only as the
fallback. -/
theorem Selects.last_of_zero (h : Selects weights draw i)
    (hweights : ∀ weight ∈ weights, 0 ≤ weight) (hdraw : 0 < draw)
    (hzero : ∀ hi : i < weights.length, (weights[i] == 0) = true) :
    i + 1 = weights.length ∧ weights.foldl (· + ·) 0 < draw := by
  have hpositive : ¬ draw ≤ 0 := Floating.not_le_of_lt hdraw
  obtain ⟨hlast, hnone⟩ := h.fallback_of_adds_nothing hpositive fun hi a hreach =>
    Floating.le_of_le_add_zero (hzero hi) hreach
  refine ⟨hlast, ?_⟩
  have htotal : sumThrough 0 weights i = weights.foldl (· + ·) 0 := by
    rw [sumThrough, hlast, List.take_length]
  have hshort := hnone i h.lt_length
  rw [htotal] at hshort
  exact Floating.lt_of_not_le hdraw (zero_le_foldl_add rfl hweights) hshort

/-- Among at least one entry, a draw selects the first whose running sum of chances reaches it, or
the last if none does.  A greater draw never selects an earlier entry.  If no chance is negative, a
positive draw selects an entry without a chance only if it is the last and all chances together do
not come up to the draw. -/
theorem selects_by_running_sums {entries : List ChanceEntry} (hentries : entries ≠ [])
    (draw : Float) :
    let weights := entries.map ChanceEntry.chance
    ∃ i, select weights draw = some i ∧ i < entries.length ∧ Selects weights draw i ∧
      (∀ draw' j, draw ≤ draw' → select weights draw' = some j → i ≤ j) ∧
      ((∀ entry ∈ entries, 0 ≤ entry.chance) → 0 < draw →
        ∀ entry, entries[i]? = some entry → (entry.chance == 0) = true →
          i + 1 = entries.length ∧ weights.foldl (· + ·) 0 < draw) := by
  intro weights
  have hne : weights ≠ [] := by simpa [weights] using hentries
  obtain ⟨i, hi⟩ := Option.isSome_iff_exists.mp (select_isSome hne draw)
  have hselects := select_eq_some_iff.mp hi
  have hlength : weights.length = entries.length := List.length_map _
  refine ⟨i, hi, hlength ▸ hselects.lt_length, hselects, ?_, ?_⟩
  · intro draw' j hle hj
    exact hselects.le_of_le (fun _ _ _ => Floating.le_trans) (select_eq_some_iff.mp hj) hle
  · intro hchances hdraw entry hentry hzero
    rw [← hlength]
    refine hselects.last_of_zero ?_ hdraw fun hlt => ?_
    · intro weight hweight
      obtain ⟨entry, hmem, rfl⟩ := List.mem_map.mp hweight
      exact hchances entry hmem
    · obtain ⟨hbound, rfl⟩ := List.getElem?_eq_some_iff.mp hentry
      simpa [weights] using hzero

/-- A table with little chance for its first entry and none for the others. -/
def thinTable : List ChanceEntry :=
  [⟨none, 0.25, .none⟩, ⟨none, 0, .none⟩, ⟨none, 0, .none⟩]

/-- In the thin table a draw of a quarter selects the first entry.  A draw of a half is above the
total and selects the last entry, though it has no chance. -/
theorem selects_by_running_sums_of_thinTable :
    thinTable ≠ [] ∧ (0.25 : Float) ≤ 0.5 ∧ (∀ entry ∈ thinTable, 0 ≤ entry.chance) ∧
      (0 : Float) < 0.5 ∧
      Selects (thinTable.map ChanceEntry.chance) 0.25 0 ∧
      Selects (thinTable.map ChanceEntry.chance) 0.5 2 ∧
      2 + 1 = thinTable.length ∧ (thinTable.map ChanceEntry.chance).foldl (· + ·) 0 < 0.5 := by
  have hne : thinTable ≠ [] := List.cons_ne_nil _ _
  have hchances : ∀ entry ∈ thinTable, 0 ≤ entry.chance := by
    intro entry hentry
    simp only [thinTable, List.mem_cons, List.not_mem_nil, or_false] at hentry
    rcases hentry with rfl | rfl | rfl <;> decide
  have hquarter : select (thinTable.map ChanceEntry.chance) 0.25 = some 0 := by decide
  have hhalf : select (thinTable.map ChanceEntry.chance) 0.5 = some 2 := by decide
  obtain ⟨i, hi, -, hselects, -, -⟩ := selects_by_running_sums hne 0.25
  obtain ⟨j, hj, -, hselects', -, hzero⟩ := selects_by_running_sums hne 0.5
  obtain rfl := Option.some.inj (hi.symm.trans hquarter)
  obtain rfl := Option.some.inj (hj.symm.trans hhalf)
  obtain ⟨hlast, htotal⟩ := hzero hchances (by decide) ⟨none, 0, .none⟩ rfl (by decide)
  exact ⟨hne, by decide, hchances, by decide, hselects, hselects', hlast, htotal⟩

end Chance
end BranchingStory
