import BranchingStory.Proofs.Play.Scoring

/-!
# How outcome rules compete

Of the rules that hold, the one with the least priority number is selected, and among several with
this number the one that is authored first.  So only the rules that hold count, and of their order
only that among rules of one priority: rules that do not hold can be added and struck, and rules of
different priorities can change places.

Main results:

- `OutcomeRule.exists_decides_iff`: the rule that decides, without places in the list.
- `selectOutcome_congr`: what of a list of rules the selection depends on.
- `selectOutcome_is_least`: the selected rule, and the changes to a list that do not change it.
-/

namespace BranchingStory

variable {s : Playthrough} {rules others : List OutcomeRule} {rule : OutcomeRule}

/-- Whether a rule holds and has a priority number. -/
def OutcomeRule.holdsWith (s : Playthrough) (priority : Amount) (rule : OutcomeRule) : Bool :=
  holds s rule.condition && decide (rule.priority = priority)

/-- A rule holds with a number if it holds and the number is its own. -/
theorem OutcomeRule.holdsWith_iff {priority : Amount} : rule.holdsWith s priority = true ↔
    holds s rule.condition = true ∧ rule.priority = priority := by
  simp [holdsWith]

/-- The rules of a number that hold are those that hold with it. -/
theorem OutcomeRule.filter_holds_filter_priority (rules : List OutcomeRule) (priority : Amount) :
    ((rules.filter fun rule => rule.priority = priority).filter fun rule =>
      holds s rule.condition) = rules.filter (holdsWith s priority) :=
  List.filter_filter

/-- So are the rules that hold and have the number. -/
theorem OutcomeRule.filter_priority_filter_holds (rules : List OutcomeRule) (priority : Amount) :
    ((rules.filter fun rule => holds s rule.condition).filter fun rule =>
      rule.priority = priority) = rules.filter (holdsWith s priority) := by
  rw [List.filter_filter]
  refine List.filter_congr fun rule _ => ?_
  rw [holdsWith, Bool.and_comm]

/-- No rule that holds has a lower number than the rule that decides the outcome. -/
theorem OutcomeRule.Decides.priority_le {place : Nat} (h : rule.Decides rules s place) :
    ∀ other ∈ rules, BranchingStory.holds s other.condition = true →
      rule.priority ≤ other.priority := by
  intro other hother hholds
  obtain ⟨otherPlace, hlisted⟩ := List.getElem?_of_mem hother
  have hprecedes := h.first other otherPlace hlisted hholds
  simp only [Precedes, Int32.lt_iff_toInt_lt, ← Int32.toInt_inj] at hprecedes
  rw [Int32.le_iff_toInt_le]
  omega

/-- The rule that decides the outcome is the first that holds of those with its number. -/
theorem OutcomeRule.Decides.head?_filter {place : Nat} (h : rule.Decides rules s place) :
    (rules.filter (holdsWith s rule.priority)).head? = some rule := by
  obtain ⟨hlt, hrule⟩ := List.getElem?_eq_some_iff.mp h.listed
  rw [List.head?_filter, List.find?_eq_some_iff_getElem, holdsWith_iff]
  refine ⟨⟨h.holds, rfl⟩, place, hlt, hrule, ?_⟩
  -- An earlier rule with this number that holds would decide in place of the rule.
  intro earlier hearlier
  rw [Bool.not_eq_true', Bool.eq_false_iff, Ne, holdsWith_iff]
  rintro ⟨hholds, hpriority⟩
  have hlisted := List.getElem?_eq_getElem (Nat.lt_trans hearlier hlt)
  have hprecedes := h.first _ earlier hlisted hholds
  simp only [Precedes, hpriority, Int32.lt_irrefl, true_and, false_or] at hprecedes
  omega

/-- A rule decides the outcome exactly if no rule that holds has a lower number, and it is the first
that holds of those with its number. -/
theorem OutcomeRule.exists_decides_iff : (∃ place, rule.Decides rules s place) ↔
    (∀ other ∈ rules, holds s other.condition = true → rule.priority ≤ other.priority) ∧
      (rules.filter (holdsWith s rule.priority)).head? = some rule := by
  constructor
  · rintro ⟨place, hdecides⟩
    exact ⟨hdecides.priority_le, hdecides.head?_filter⟩
  · rintro ⟨hleast, hhead⟩
    rw [List.head?_filter, List.find?_eq_some_iff_getElem, holdsWith_iff] at hhead
    obtain ⟨⟨hholds, -⟩, place, hlt, hrule, hfirst⟩ := hhead
    refine ⟨place, List.getElem?_eq_some_iff.mpr ⟨hlt, hrule⟩, hholds, ?_⟩
    intro other otherPlace hlisted hother
    have hle := hleast other (List.mem_of_getElem? hlisted) hother
    by_cases hpriority : rule.priority = other.priority
    · refine Or.inr ⟨hpriority, Nat.le_of_not_lt fun hearlier => ?_⟩
      obtain ⟨_, hget⟩ := List.getElem?_eq_some_iff.mp hlisted
      have hnot := hfirst otherPlace hearlier
      rw [hget, Bool.not_eq_true', Bool.eq_false_iff, Ne, holdsWith_iff] at hnot
      exact hnot ⟨hother, hpriority.symm⟩
    · exact Or.inl (Int32.lt_of_le_of_ne hle hpriority)

/-- The selection depends on the rules that hold, and on their order within one priority. -/
theorem selectOutcome_congr
    (h : ∀ priority, others.filter (OutcomeRule.holdsWith s priority) =
      rules.filter (OutcomeRule.holdsWith s priority)) :
    (selectOutcome others s).value = (selectOutcome rules s).value := by
  have hmem : ∀ rule, holds s rule.condition = true → (rule ∈ others ↔ rule ∈ rules) := by
    intro rule hholds
    have hkept : rule.holdsWith s rule.priority = true :=
      OutcomeRule.holdsWith_iff.mpr ⟨hholds, rfl⟩
    have hfilter : rule ∈ others.filter (OutcomeRule.holdsWith s rule.priority) ↔
        rule ∈ rules.filter (OutcomeRule.holdsWith s rule.priority) := by rw [h]
    simpa [hkept] using hfilter
  apply Option.ext
  intro rule
  rw [selectOutcome_eq_some_iff, selectOutcome_eq_some_iff, OutcomeRule.exists_decides_iff,
    OutcomeRule.exists_decides_iff, h]
  refine and_congr_left' ?_
  constructor
  · intro hleast other hother hholds
    exact hleast other ((hmem other hholds).mpr hother) hholds
  · intro hleast other hother hholds
    exact hleast other ((hmem other hholds).mp hother) hholds

/-- A rule is selected exactly if one holds, and then it is the one that decides the outcome: it
holds, and its number and its place are the least among the rules that hold.  A list with the same
rules of each priority in the same order gives the same rule, and so does one with the same rules
that hold. -/
theorem selectOutcome_is_least (rules : List OutcomeRule) (s : Playthrough) :
    ((selectOutcome rules s).value.isSome = true ↔
      ∃ rule ∈ rules, holds s rule.condition = true) ∧
    (∀ rule, (selectOutcome rules s).value = some rule ↔ ∃ place, rule.Decides rules s place) ∧
    (∀ others : List OutcomeRule,
      (∀ priority, others.filter (fun rule => rule.priority = priority) =
        rules.filter fun rule => rule.priority = priority) →
      (selectOutcome others s).value = (selectOutcome rules s).value) ∧
    ∀ others : List OutcomeRule,
      (others.filter fun rule => holds s rule.condition) =
        rules.filter (fun rule => holds s rule.condition) →
      (selectOutcome others s).value = (selectOutcome rules s).value := by
  refine ⟨?_, fun rule => selectOutcome_eq_some_iff, ?_, ?_⟩
  · rw [← not_iff_not, Bool.not_eq_true, Option.isSome_eq_false_iff, Option.isNone_iff_eq_none,
      selectOutcome_eq_none_iff]
    simp
  · intro others hsame
    apply selectOutcome_congr
    intro priority
    rw [← OutcomeRule.filter_holds_filter_priority, hsame, OutcomeRule.filter_holds_filter_priority]
  · intro others hsame
    apply selectOutcome_congr
    intro priority
    rw [← OutcomeRule.filter_priority_filter_holds, hsame, OutcomeRule.filter_priority_filter_holds]

/-- A rule without a description. -/
def OutcomeRule.plain (condition : String) (priority : Amount) (result : String) :
    OutcomeRule where
  condition := condition
  priority := priority
  result := result
  description := none

/-- The rules with the least numbers are broken or do not hold, and two others have one number. -/
def rankedRules : List OutcomeRule :=
  [.plain "S <" (-9) "Broken", .plain "S > 5" (-5) "Safe", .plain "S < 1" 2 "Swept away",
    .plain "true" 2 "Stranded", .plain "true" 7 "Lost"]

/-- The same rules, of which only the two with one number have kept their order. -/
def shuffledRules : List OutcomeRule :=
  [.plain "true" 7 "Lost", .plain "S < 1" 2 "Swept away", .plain "S > 5" (-5) "Safe",
    .plain "true" 2 "Stranded", .plain "S <" (-9) "Broken"]

/-- The rules that hold for a playthrough that is not safe. -/
def heldRules : List OutcomeRule :=
  [.plain "S < 1" 2 "Swept away", .plain "true" 2 "Stranded", .plain "true" 7 "Lost"]

/-- The earlier of the two rules with one number is selected, also when the rules of other
priorities have changed places, and when those that do not hold have been struck. -/
theorem selectOutcome_is_least_of_rankedRules :
    let s : Playthrough := .start "END" "Student" "River" (.uniform 0)
    let rule : OutcomeRule := .plain "S < 1" 2 "Swept away"
    (selectOutcome shuffledRules s).value = some rule ∧
      (selectOutcome heldRules s).value = some rule ∧
      ∃ place, rule.Decides rankedRules s place := by
  intro s rule
  obtain ⟨-, hdecides, hshuffled, hheld⟩ := selectOutcome_is_least rankedRules s
  have hselected : (selectOutcome rankedRules s).value = some rule := by
    rw [hdecides, OutcomeRule.exists_decides_iff]
    decide +kernel
  refine ⟨?_, ?_, (hdecides rule).mp hselected⟩
  · rw [hshuffled shuffledRules, hselected]
    intro priority
    simp only [shuffledRules, rankedRules, OutcomeRule.plain, List.filter_cons]
    grind
  · rw [hheld heldRules, hselected]
    decide +kernel

end BranchingStory
