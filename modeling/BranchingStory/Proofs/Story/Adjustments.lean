import BranchingStory.Story.Choice

/-!
# What an adjustment does

A stat that an adjustment names becomes the sum of its value and the amount, moved into its bounds.
The sum is the exact one: where it leaves the range of amounts, so that it is cut off, it lies
beyond the bounds as well, and moving it into the bounds hides the cut.  Nothing else of a
playthrough is written, and symbols that name no stat count for nothing.  As each stat is adjusted
by itself, an adjustment can be split into parts for different stats, which are then applied in any
order.

Main results:

- `Adjustment.toInt_get_applyTo`: the value of a stat that is named, computed over the integers.
- `Adjustment.applyTo_congr`: only the amounts for stats count.
- `Adjustment.applyTo_applyTo_of_splits`: the parts of an adjustment, one after the other.
- `Playthrough.adjusts_exactly`: what an adjustment does with a playthrough.
-/

namespace BranchingStory

variable {bounds : PerStat Bounds} {stats : Stats} {stat : Stat} {a b c : Adjustment}
  {amount : Amount}

/-! ## One stat -/

/-- A sum that was cut off at an end of the range of amounts is moved to where the exact sum is
moved to. -/
theorem Bounds.toInt_clamp_saturatingAdd (range : Bounds) (value amount : Amount) :
    (range.clamp (Amount.saturatingAdd value amount)).toInt =
      Min.min (Max.max (value.toInt + amount.toInt) range.min.toInt) range.max.toInt := by
  have hlower := range.min.minValue_le_toInt
  have hlower' := range.max.minValue_le_toInt
  have hupper := range.min.toInt_le
  have hupper' := range.max.toInt_le
  rw [toInt_clamp, Amount.toInt_saturatingAdd]
  omega

namespace Adjustment

/-- The value of a stat that is named, computed over the integers. -/
theorem toInt_get_applyTo (h : a.amount? stat = some amount) :
    ((a.applyTo bounds stats).get stat).toInt =
      min (max ((stats.get stat).toInt + amount.toInt) (bounds.get stat).min.toInt)
        (bounds.get stat).max.toInt := by
  rw [get_applyTo, h]
  exact Bounds.toInt_clamp_saturatingAdd _ _ _

/-- A stat for which no amount is given stays as it is. -/
theorem get_applyTo_of_eq_none (h : a.amount? stat = Option.none) :
    (a.applyTo bounds stats).get stat = stats.get stat := by
  rw [get_applyTo, h]

/-! ## Several stats -/

/-- Only the amounts for stats count. -/
theorem applyTo_congr (h : ∀ stat, b.amount? stat = a.amount? stat) :
    b.applyTo bounds stats = a.applyTo bounds stats := by
  apply PerStat.ext_get
  intro stat
  rw [get_applyTo, get_applyTo, h]

/-- Each stat is named by one of two adjustments at most, with the amount of a third one. -/
def Splits (a b c : Adjustment) : Prop :=
  ∀ stat, (b.amount? stat = a.amount? stat ∧ c.amount? stat = Option.none) ∨
    (b.amount? stat = Option.none ∧ c.amount? stat = a.amount? stat)

theorem Splits.symm (h : a.Splits b c) : a.Splits c b := by
  intro stat
  rcases h stat with ⟨hb, hc⟩ | ⟨hb, hc⟩
  · exact Or.inr ⟨hc, hb⟩
  · exact Or.inl ⟨hc, hb⟩

/-- The parts of an adjustment, applied one after the other, do what the adjustment does. -/
theorem applyTo_applyTo_of_splits (h : a.Splits b c) :
    c.applyTo bounds (b.applyTo bounds stats) = a.applyTo bounds stats := by
  apply PerStat.ext_get
  intro stat
  rcases h stat with ⟨hb, hc⟩ | ⟨hb, hc⟩
  · rw [get_applyTo_of_eq_none hc, get_applyTo, get_applyTo, hb]
  · have hfirst : (b.applyTo bounds stats).get stat = stats.get stat := get_applyTo_of_eq_none hb
    rw [get_applyTo, hfirst, hc, get_applyTo]

/-- Every stat is a status variable or a skill, and none is both. -/
theorem splits_restrictedTo (a : Adjustment) :
    a.Splits (a.restrictedTo Stat.statusVariables) (a.restrictedTo Stat.skills) := by
  intro stat
  have hone : stat ∈ Stat.statusVariables ↔ stat ∉ Stat.skills := by cases stat <;> decide
  by_cases hskill : stat ∈ Stat.skills
  · simp [amount?_restrictedTo, hone, hskill]
  · simp [amount?_restrictedTo, hone, hskill]

end Adjustment

/-! ## Playthroughs -/

namespace Playthrough

/-- A stat that is named gets the exact sum, moved into the bounds, and nothing else of a
playthrough is written.  What an adjustment has for symbols that name no stat does not matter, and
its part for the status variables and its part for the skills can be applied in either order. -/
theorem adjusts_exactly (s : Playthrough) (bounds : PerStat Bounds) (a : Adjustment) :
    (∀ stat amount, a.amounts.get? stat.key = some amount →
      ((s.adjust bounds a).value stat).toInt =
        min (max ((s.value stat).toInt + amount.toInt) (bounds.get stat).min.toInt)
          (bounds.get stat).max.toInt) ∧
    (∀ stat, a.amounts.get? stat.key = none → (s.adjust bounds a).value stat = s.value stat) ∧
    s.adjust bounds a = { s with stats := (s.adjust bounds a).stats } ∧
    (∀ b : Adjustment, (∀ stat : Stat, b.amounts.get? stat.key = a.amounts.get? stat.key) →
      s.adjust bounds b = s.adjust bounds a) ∧
    let ofVariables := a.restrictedTo Stat.statusVariables
    let ofSkills := a.restrictedTo Stat.skills
    (s.adjust bounds ofVariables).adjust bounds ofSkills = s.adjust bounds a ∧
      (s.adjust bounds ofSkills).adjust bounds ofVariables = s.adjust bounds a := by
  have hsplits := a.splits_restrictedTo
  refine ⟨?_, ?_, rfl, ?_, ?_, ?_⟩
  · intro stat amount hnamed
    exact Adjustment.toInt_get_applyTo hnamed
  · intro stat hnamed
    exact Adjustment.get_applyTo_of_eq_none hnamed
  · intro b hsame
    simp only [adjust, Adjustment.applyTo_congr hsame]
  · simp only [adjust, Adjustment.applyTo_applyTo_of_splits hsplits]
  · simp only [adjust, Adjustment.applyTo_applyTo_of_splits hsplits.symm]

/-- Every amount is at an end of its range, and one is for a symbol that names no stat. -/
def steep : Adjustment where
  amounts := .ofList [("S", Int32.maxValue), ("R", Int32.minValue), ("SA", 1), ("XP", 9)]

/-- One range is as wide as amounts are, and the others are empty. -/
def steepBounds : PerStat Bounds :=
  { PerStat.uniform ⟨3, -3⟩ with safety := ⟨Int32.minValue, Int32.maxValue⟩ }

/-- A playthrough whose stats are as low as they can be. -/
def lowest : Playthrough :=
  .start "START" "Student" "River" (.uniform Int32.minValue)

/-- Between the widest bounds the largest amount lifts the least value to the exact sum.  With
inverted bounds the upper end counts, and a stat that is not named stays below both ends. -/
theorem adjusts_exactly_lowest :
    ((lowest.adjust steepBounds steep).value .safety).toInt = -1 ∧
      ((lowest.adjust steepBounds steep).value .resources).toInt = -3 ∧
      (lowest.adjust steepBounds steep).value .mobility = Int32.minValue ∧
      lowest.adjust steepBounds (steep.restrictedTo Stat.all) =
        lowest.adjust steepBounds steep := by
  obtain ⟨hnamed, hother, -, hsame, -⟩ := adjusts_exactly lowest steepBounds steep
  refine ⟨?_, ?_, ?_, ?_⟩
  · rw [hnamed .safety Int32.maxValue (by decide +kernel)]
    decide
  · rw [hnamed .resources Int32.minValue (by decide +kernel)]
    decide
  · exact hother .mobility (by decide +kernel)
  · apply hsame
    intro stat
    cases stat <;> decide +kernel

end Playthrough
end BranchingStory
