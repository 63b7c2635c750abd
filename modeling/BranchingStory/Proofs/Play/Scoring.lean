import BranchingStory.Proofs.Condition.Sight
import BranchingStory.Proofs.Play.Steps
import Mathlib.Algebra.Ring.Int.Defs

/-!
# What scoring gives

The outcome of a playthrough is that of the rule with the lowest priority number among those whose
condition holds, the earliest of them if there are several.  The scorecard credits every rubric rule
whose first authored matcher holds, in authored order.  Conditions and matchers look at stats,
flags and the location only, and scoring writes none of these, so the results can be checked against
the playthrough that has them.

Main results:

- `selectOutcome_eq_some_iff`: the selected rule is the first that holds.
- `RubricRule.value_appliesTo_iff`: a rubric rule applies exactly if its first matcher holds.
- `toInt_totalScore`: the score is the exact sum of the scores, if the sum is in range.
- `Story.isScored_score`: scoring gives the results that the scored playthrough calls for.
-/

namespace BranchingStory

variable {s t : Playthrough} {rules : List OutcomeRule} {rule : OutcomeRule}

/-! ## The outcome -/

/-- The order in which rules with their places are tried: by priority number and then by place. -/
def OutcomeRule.Precedes (a b : OutcomeRule × Nat) : Prop :=
  a.1.priority < b.1.priority ∨ a.1.priority = b.1.priority ∧ a.2 ≤ b.2

/-- The rule at a place of a list decides the outcome: its condition holds, and it precedes every
rule whose condition holds. -/
structure OutcomeRule.Decides (rules : List OutcomeRule) (s : Playthrough) (rule : OutcomeRule)
    (place : Nat) : Prop where
  listed : rules[place]? = some rule
  holds : BranchingStory.holds s rule.condition = true
  first : ∀ (other : OutcomeRule) (otherPlace : Nat), rules[otherPlace]? = some other →
    BranchingStory.holds s other.condition = true → Precedes (rule, place) (other, otherPlace)

/-- The sort by priority is stable, so it puts rules with their places into the order in which they
are tried. -/
theorem exists_pairwise_precedes (rules : List OutcomeRule) :
    ∃ sorted : List (OutcomeRule × Nat), byPriority rules = sorted.map Prod.fst ∧
      sorted.Pairwise OutcomeRule.Precedes ∧
      ∀ rule place, (rule, place) ∈ sorted ↔ rules[place]? = some rule := by
  let le : OutcomeRule → OutcomeRule → Bool := fun a b => a.priority ≤ b.priority
  have htrans : ∀ a b c, le a b = true → le b c = true → le a c = true := by
    intro a b c hab hbc
    exact decide_eq_true (Int32.le_trans (of_decide_eq_true hab) (of_decide_eq_true hbc))
  have htotal : ∀ a b, (le a b || le b a) = true := by
    intro a b
    simpa [le] using Int32.le_total a.priority b.priority
  refine ⟨rules.zipIdx.mergeSort (List.zipIdxLE le), List.mergeSort_zipIdx.symm, ?_, ?_⟩
  · have hsorted := List.pairwise_mergeSort (List.zipIdxLE_trans htrans)
      (List.zipIdxLE_total htotal) rules.zipIdx
    refine hsorted.imp fun {a b} hab => ?_
    simp only [List.zipIdxLE, le, decide_eq_true_eq] at hab
    split at hab
    · rename_i hle
      split at hab
      · rename_i hge
        exact Or.inr ⟨Int32.le_antisymm hle hge, of_decide_eq_true hab⟩
      · rename_i hnge
        exact Or.inl (Int32.not_le.mp hnge)
    · cases hab
  · intro rule place
    rw [List.mem_mergeSort]
    exact List.mem_zipIdx_iff_getElem?

/-- No rule is selected exactly if none holds. -/
theorem selectOutcome_eq_none_iff : (selectOutcome rules s).value = none ↔
    ∀ rule ∈ rules, holds s rule.condition = false := by
  simp [selectOutcome, byPriority]

/-- Rules that precede each other have one place. -/
theorem OutcomeRule.Precedes.place_eq {a b : OutcomeRule × Nat} (hab : Precedes a b)
    (hba : Precedes b a) : a.2 = b.2 := by
  simp only [Precedes, Int32.lt_iff_toInt_lt, ← Int32.toInt_inj] at hab hba
  omega

/-- At most one rule decides the outcome. -/
theorem OutcomeRule.Decides.unique {other : OutcomeRule} {place otherPlace : Nat}
    (h : rule.Decides rules s place) (hother : other.Decides rules s otherPlace) :
    rule = other := by
  have hplace : place = otherPlace :=
    (h.first other otherPlace hother.listed hother.holds).place_eq
      (hother.first rule place h.listed h.holds)
  have hlisted := h.listed
  rw [hplace, hother.listed] at hlisted
  exact (Option.some.inj hlisted).symm

/-- A selected rule decides the outcome from its place. -/
theorem exists_decides_of_selectOutcome (h : (selectOutcome rules s).value = some rule) :
    ∃ place, rule.Decides rules s place := by
  obtain ⟨sorted, hsort, hpairwise, hmem⟩ := exists_pairwise_precedes rules
  rw [selectOutcome, Traced.value_find?, hsort, List.find?_map] at h
  obtain ⟨⟨rule, place⟩, hfind, rfl⟩ := Option.map_eq_some_iff.mp h
  obtain ⟨hholds, before, after, hsplit, hbefore⟩ := List.find?_eq_some_iff_append.mp hfind
  refine ⟨place, (hmem rule place).mp (List.mem_of_find?_eq_some hfind), hholds, ?_⟩
  intro other otherPlace hother hotherHolds
  have hin := (hmem other otherPlace).mpr hother
  rw [hsplit] at hpairwise hin
  rcases List.mem_append.mp hin with hin | hin
  · -- A rule that is tried before the selected one does not hold.
    have hfails := hbefore _ hin
    simp [hotherHolds] at hfails
  · rcases List.mem_cons.mp hin with heq | hin
    · cases heq
      exact Or.inr ⟨rfl, Nat.le_refl _⟩
    · have htail := (List.pairwise_append.mp hpairwise).2.1
      exact (List.pairwise_cons.mp htail).1 _ hin

/-- A rule is selected exactly if it decides the outcome from some place. -/
theorem selectOutcome_eq_some_iff : (selectOutcome rules s).value = some rule ↔
    ∃ place, rule.Decides rules s place := by
  constructor
  · exact exists_decides_of_selectOutcome
  · rintro ⟨place, hdecides⟩
    cases hselected : (selectOutcome rules s).value with
    | none =>
        have hfails := selectOutcome_eq_none_iff.mp hselected rule
          (List.mem_of_getElem? hdecides.listed)
        rw [hdecides.holds] at hfails
        cases hfails
    | some other =>
        obtain ⟨_, hother⟩ := exists_decides_of_selectOutcome hselected
        rw [hdecides.unique hother]

/-- In playthroughs that look alike the same rule decides. -/
theorem OutcomeRule.Decides.congr {place : Nat} (h : s.LooksLike t) :
    rule.Decides rules s place ↔ rule.Decides rules t place := by
  have hsame : ∀ condition, BranchingStory.holds s condition = BranchingStory.holds t condition :=
    holds_congr h
  constructor
  · rintro ⟨hlisted, hholds, hfirst⟩
    simp only [hsame] at hholds hfirst
    exact ⟨hlisted, hholds, hfirst⟩
  · rintro ⟨hlisted, hholds, hfirst⟩
    simp only [← hsame] at hholds hfirst
    exact ⟨hlisted, hholds, hfirst⟩

/-! ## The scorecard -/

/-- A rubric rule counts for a playthrough if the first of its matchers that is authored holds: the
condition, else the condition in its second spelling, else the flag, else one of the flags. -/
inductive RubricRule.Counts (rule : RubricRule) (s : Playthrough) : Prop
  | condition {text : String} (hcondition : rule.condition = some text)
      (hholds : holds s text = true) : Counts rule s
  | ifCondition {text : String} (hcondition : rule.condition = none)
      (hif : rule.ifCondition = some text) (hholds : holds s text = true) : Counts rule s
  | ifFlag {flag : String} (hcondition : rule.condition = none) (hif : rule.ifCondition = none)
      (hflag : rule.ifFlag = some flag) (hset : flag ∈ s.flags) : Counts rule s
  | ifAnyFlag {flags : List String} {flag : String} (hcondition : rule.condition = none)
      (hif : rule.ifCondition = none) (hflag : rule.ifFlag = none)
      (hflags : rule.ifAnyFlag = some flags) (hmem : flag ∈ flags) (hset : flag ∈ s.flags) :
      Counts rule s

/-- A rubric rule applies exactly if its first matcher holds. -/
theorem RubricRule.value_appliesTo_iff {rule : RubricRule} :
    (rule.appliesTo s).value = true ↔ rule.Counts s := by
  constructor
  · intro h
    cases hcondition : rule.condition with
    | some text => exact .condition hcondition (by simpa [appliesTo, matcher, hcondition] using h)
    | none =>
        cases hif : rule.ifCondition with
        | some text =>
            refine .ifCondition hcondition hif ?_
            simpa [appliesTo, matcher, hcondition, hif] using h
        | none =>
            cases hflag : rule.ifFlag with
            | some flag =>
                refine .ifFlag hcondition hif hflag ?_
                simpa [appliesTo, matcher, hcondition, hif, hflag, Playthrough.hasFlag] using h
            | none =>
                cases hflags : rule.ifAnyFlag with
                | some flags =>
                    obtain ⟨flag, hmem, hset⟩ : ∃ flag ∈ flags, flag ∈ s.flags := by
                      simpa [appliesTo, matcher, hcondition, hif, hflag, hflags,
                        Playthrough.hasFlag] using h
                    exact .ifAnyFlag hcondition hif hflag hflags hmem hset
                | none => simp [appliesTo, matcher, hcondition, hif, hflag, hflags] at h
  · intro h
    cases h with
    | condition hcondition hholds => simpa [appliesTo, matcher, hcondition] using hholds
    | ifCondition hcondition hif hholds =>
        simpa [appliesTo, matcher, hcondition, hif] using hholds
    | ifFlag hcondition hif hflag hset =>
        simpa [appliesTo, matcher, hcondition, hif, hflag, Playthrough.hasFlag] using hset
    | ifAnyFlag hcondition hif hflag hflags hmem hset =>
        simpa [appliesTo, matcher, hcondition, hif, hflag, hflags, Playthrough.hasFlag] using
          ⟨_, hmem, hset⟩

instance (rule : RubricRule) (s : Playthrough) : Decidable (rule.Counts s) :=
  decidable_of_iff ((rule.appliesTo s).value = true) RubricRule.value_appliesTo_iff

/-- In playthroughs that look alike the same rubric rules count. -/
theorem RubricRule.counts_congr (h : s.LooksLike t) (rule : RubricRule) :
    rule.Counts s ↔ rule.Counts t := by
  have hflags : s.hasFlag = t.hasFlag := h.hasFlag_eq
  rw [← value_appliesTo_iff, ← value_appliesTo_iff, appliesTo, appliesTo]
  cases rule.matcher with
  | condition text => simp only [value_testing, holds_congr h text]
  | flag flag => rw [hflags]
  | anyFlag flags => rw [hflags]
  | never => rfl

/-- The scorecard has the rules that count. -/
theorem Rubric.value_scorecard (rubric : Rubric) (s : Playthrough) :
    (rubric.scorecard s).value =
      let counted := rubric.rules.filter fun rule => rule.Counts s
      ⟨totalScore counted, rubric.maxScore, counted.map RubricRule.credit⟩ := by
  have hcounted : ∀ rule : RubricRule, (rule.appliesTo s).value = decide (rule.Counts s) := by
    intro rule
    rw [Bool.eq_iff_iff, decide_eq_true_iff, RubricRule.value_appliesTo_iff]
  simp only [scorecard, Traced.value_bind, Traced.value_pure, Traced.value_filter, hcounted]

/-- Playthroughs that look alike get the same scorecard. -/
theorem Rubric.value_scorecard_congr (h : s.LooksLike t) (rubric : Rubric) :
    (rubric.scorecard s).value = (rubric.scorecard t).value := by
  simp only [value_scorecard, RubricRule.counts_congr h]

/-- Scores that are added one after the other make their exact sum, wrapped around once. -/
theorem foldl_score_eq (rules : List RubricRule) (start : Amount) :
    rules.foldl (fun total rule => total + rule.score) start =
      start + Int32.ofInt (rules.map fun rule => rule.score.toInt).sum := by
  induction rules generalizing start with
  | nil => simp
  | cons rule rules ih =>
      rw [List.foldl_cons, ih, List.map_cons, List.sum_cons, Int32.ofInt_add, Int32.ofInt_toInt,
        Int32.add_assoc]

/-- The total is the exact sum of the scores, if the sum is in the range of amounts. -/
theorem toInt_totalScore {rules : List RubricRule}
    (hmin : Int32.minValue.toInt ≤ (rules.map fun rule => rule.score.toInt).sum)
    (hmax : (rules.map fun rule => rule.score.toInt).sum ≤ Int32.maxValue.toInt) :
    (totalScore rules).toInt = (rules.map fun rule => rule.score.toInt).sum := by
  have hend : Int32.maxValue.toInt = 2 ^ 31 - 1 := by decide
  rw [totalScore, foldl_score_eq, Int32.zero_add]
  exact Int32.toInt_ofInt_of_le hmin (by omega)

/-! ## Results -/

/-- Nothing has been scored yet. -/
structure Playthrough.Unscored (s : Playthrough) : Prop where
  outcome : s.outcome = none
  outcomeDescription : s.outcomeDescription = none
  scorecard : s.scorecard = none

namespace Story

variable {story : Story}

/-- The results of a playthrough are those that its own stats, flags and location call for. -/
structure IsScored (story : Story) (s : Playthrough) : Prop where
  outcome :
    (∃ rule place, OutcomeRule.Decides story.outcomes s rule place ∧
        s.outcome = some rule.result ∧ s.outcomeDescription = some (rule.description.getD "")) ∨
      (∀ rule ∈ story.outcomes, holds s rule.condition = false) ∧
        s.outcome = none ∧ s.outcomeDescription = none
  scorecard : ∃ card, s.scorecard = some card ∧ card.maxScore = story.rubric.maxScore ∧
    let counted := story.rubric.rules.filter fun rule => rule.Counts s
    card.credits = counted.map RubricRule.credit ∧
      let total := (counted.map fun rule => rule.score.toInt).sum
      (Int32.minValue.toInt ≤ total → total ≤ Int32.maxValue.toInt → card.score.toInt = total)

/-- A playthrough without results gets the outcome and the scorecard. -/
theorem value_score_of_unscored (hs : s.Unscored) :
    (story.score s).value =
      let ended := s.withOutcome (selectOutcome story.outcomes s).value
      { ended with scorecard := some (story.rubric.scorecard ended).value } := by
  have hunfinished : ¬ s.isFinished = true := by
    rw [Playthrough.isFinished, hs.scorecard]
    exact Bool.false_ne_true
  rw [score, if_neg hunfinished, Traced.value_bind]
  cases (selectOutcome story.outcomes s).value with
  | none => rfl
  | some rule => rfl

/-- Scoring writes nothing that conditions can see. -/
theorem looksLike_score (story : Story) (s : Playthrough) : s.LooksLike (story.score s).value := by
  obtain ⟨_, _, _, hscore⟩ := story.exists_value_score_eq s
  rw [hscore]
  exact ⟨rfl, rfl, rfl⟩

/-- The scorecard is the one that the scored playthrough would get. -/
theorem scorecard_score (hs : s.Unscored) :
    (story.score s).value.scorecard =
      some (story.rubric.scorecard (story.score s).value).value := by
  rw [value_score_of_unscored hs]
  refine congrArg some (Rubric.value_scorecard_congr ?_ story.rubric)
  exact ⟨rfl, rfl, rfl⟩

/-- Scoring gives the results that the scored playthrough calls for. -/
theorem isScored_score (hs : s.Unscored) : story.IsScored (story.score s).value := by
  have hlooks := story.looksLike_score s
  constructor
  · cases hselected : (selectOutcome story.outcomes s).value with
    | none =>
        have hfails : ∀ rule ∈ story.outcomes,
            holds (story.score s).value rule.condition = false := by
          intro rule hrule
          rw [← holds_congr hlooks]
          exact selectOutcome_eq_none_iff.mp hselected rule hrule
        rw [value_score_of_unscored hs, hselected] at hfails ⊢
        exact Or.inr ⟨hfails, hs.outcome, hs.outcomeDescription⟩
    | some rule =>
        obtain ⟨place, hdecides⟩ := selectOutcome_eq_some_iff.mp hselected
        rw [OutcomeRule.Decides.congr hlooks] at hdecides
        rw [value_score_of_unscored hs, hselected] at hdecides ⊢
        exact Or.inl ⟨rule, place, hdecides, rfl, rfl⟩
  · refine ⟨_, scorecard_score hs, ?_⟩
    rw [Rubric.value_scorecard]
    exact ⟨rfl, rfl, toInt_totalScore⟩

end Story
end BranchingStory
