import BranchingStory.Proofs.Condition.Sight
import BranchingStory.Proofs.Play.Excursions

/-!
# What play asks of a playthrough

Play asks questions of a playthrough to decide how it goes on: what an expression is, whether a
condition holds, whether a choice is open, what is eligible in a chance table, which outcome it
comes to and what it is credited with.  All of these are answered from the stats, the flags and the
location.  So playthroughs that look alike get the same answers, and the same tests are noted on the
way to them.

A fan-out router that fires leaves a mark, and a mark is not among what can be asked for.

Main results:

- `Playthrough.LooksLike.answersAlike`: playthroughs that look alike get the same answers.
- `Playthrough.sees_stats_location_flags`: the same, said for each of the three, and for a router
  that fires.
-/

namespace BranchingStory

variable {s t : Playthrough}

/-- Every question that play asks has one answer in both playthroughs, and the same tests are noted
on the way to it. -/
structure Playthrough.AnswersAlike (s t : Playthrough) : Prop where
  eval : ∀ e : Condition.Expr, e.eval s = e.eval t
  test : ∀ condition : String, Condition.test s condition = Condition.test t condition
  tested : ∀ condition : String, testing s condition = testing t condition
  isOpenTo : ∀ choice : Choice, choice.isOpenTo s = choice.isOpenTo t
  eligible : ∀ table : List ChanceEntry, Chance.eligible s table = Chance.eligible t table
  selected : ∀ rules : List OutcomeRule, selectOutcome rules s = selectOutcome rules t
  appliesTo : ∀ rule : RubricRule, rule.appliesTo s = rule.appliesTo t
  scorecard : ∀ rubric : Rubric, rubric.scorecard s = rubric.scorecard t

namespace Playthrough.LooksLike

/-- Tests note the same in playthroughs that look alike. -/
theorem testing_eq (h : s.LooksLike t) : testing s = testing t := by
  funext condition
  rw [testing, testing, holds_congr h, Condition.test_congr h]

/-- So do tests that may be absent. -/
theorem testingOr_eq (h : s.LooksLike t) (absent : Bool) :
    testingOr absent s = testingOr absent t := by
  funext condition
  cases condition with
  | none => rfl
  | some condition => rw [testingOr, testingOr, h.testing_eq]

/-- A choice is open to both of two playthroughs that look alike, or to neither. -/
theorem isOpenTo_eq (h : s.LooksLike t) (choice : Choice) :
    choice.isOpenTo s = choice.isOpenTo t := by
  have hpasses : Choice.passes s = Choice.passes t := by
    funext symbol gate
    simp only [Choice.passes, value, h.stats]
  rw [Choice.isOpenTo, Choice.isOpenTo, h.hasFlag_eq, hpasses]

/-- A rubric rule applies to both of them or to neither. -/
theorem appliesTo_eq (h : s.LooksLike t) (rule : RubricRule) :
    rule.appliesTo s = rule.appliesTo t := by
  rw [RubricRule.appliesTo, RubricRule.appliesTo, h.testing_eq, h.hasFlag_eq]

/-- A branch is taken from both of them or from neither. -/
theorem isTaken_eq (h : s.LooksLike t) : Branch.isTaken s = Branch.isTaken t := by
  funext branch
  rw [Branch.isTaken, Branch.isTaken, h.testingOr_eq]

/-- Playthroughs that look alike get the same answers. -/
theorem answersAlike (h : s.LooksLike t) : s.AnswersAlike t where
  eval := Condition.Expr.eval_congr h
  test := Condition.test_congr h
  tested := congrFun h.testing_eq
  isOpenTo := h.isOpenTo_eq
  eligible table := by rw [Chance.eligible, Chance.eligible, h.testingOr_eq]
  selected rules := by rw [selectOutcome, selectOutcome, h.testing_eq]
  appliesTo := h.appliesTo_eq
  scorecard rubric := by
    have happlies : (fun rule : RubricRule => rule.appliesTo s) = fun rule => rule.appliesTo t :=
      funext h.appliesTo_eq
    rw [Rubric.scorecard, Rubric.scorecard, happlies]

/-- Playthroughs that look alike draw alike from a table. -/
theorem apply_eq (h : s.LooksLike t) (bounds : PerStat Bounds) (table : List ChanceEntry)
    (source : Source) :
    Chance.apply bounds s table source = Chance.apply bounds t table source := by
  rw [Chance.apply, Chance.apply, h.answersAlike.eligible, h.stats]

end Playthrough.LooksLike

/-- Playthroughs with the same stats, location and flags get the same answers, however different
they are in everything else.  A fan-out router that fires changes none of the three, so it changes
no answer. -/
theorem Playthrough.sees_stats_location_flags :
    (∀ s t : Playthrough, (∀ stat, s.value stat = t.value stat) → s.location = t.location →
      (∀ flag, flag ∈ s.flags ↔ flag ∈ t.flags) → s.AnswersAlike t) ∧
    ∀ (story : Story) (s s' : Playthrough), (story.step s).value = .rest .feedback s' →
      s.AnswersAlike s' := by
  constructor
  · intro s t hstats hlocation hflags
    have hlooks : s.LooksLike t := ⟨PerStat.ext_get hstats, Names.ext_mem hflags, hlocation⟩
    exact hlooks.answersAlike
  · intro story s s' hstep
    cases Story.value_step_eq_rest_iff.mp hstep with
    | fired _ _ _ => exact LooksLike.answersAlike ⟨rfl, rfl, rfl⟩

/-- Behind the gate, with nothing else in common with `atGate` than stats, location and flags. -/
def farFromGate : Playthrough where
  node := "END"
  persona := "Ranger"
  location := "River"
  stats := .uniform 0
  flags := .ofList []
  marks := .ofList ["GATE"]
  history := [⟨"SAFE", none⟩]
  queue := ["KIT"]
  returnNode := some "END"
  outcome := some "Unsafe"
  outcomeDescription := some "Swept away"
  scorecard := some ⟨0, 0, []⟩

/-- No two of these three playthroughs can be told apart: in front of the gate, just sent on by it,
and far from it.  In particular the mark of the gate does not count as a flag. -/
theorem sees_stats_location_flags_atGate :
    Story.atGate.AnswersAlike farFromGate ∧
      ∃ s', ((Story.gateStory Story.gateBranches).step Story.atGate).value = .rest .feedback s' ∧
        Story.atGate.AnswersAlike s' ∧ "GATE" ∈ s'.marks ∧
        holds s' "'GATE' in flags" = false := by
  have hstep : ((Story.gateStory Story.gateBranches).step Story.atGate).value =
      .rest .feedback (Story.atGate.onExcursion "KIT" ["SAFE"] "END") := by
    decide +kernel
  have hsent := Playthrough.sees_stats_location_flags.2 _ _ _ hstep
  refine ⟨?_, _, hstep, hsent, Names.mem_insert.mpr (Or.inl rfl), ?_⟩
  · refine Playthrough.sees_stats_location_flags.1 _ _ ?_ rfl ?_
    · intro stat
      rfl
    · intro flag
      rfl
  · have hbefore : holds Story.atGate "'GATE' in flags" = false := by decide +kernel
    have hsame := congrArg Traced.value (hsent.tested "'GATE' in flags")
    rw [value_testing, value_testing] at hsame
    exact hsame.symm.trans hbefore

end BranchingStory
