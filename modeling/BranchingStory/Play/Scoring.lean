import BranchingStory.Journal
import BranchingStory.Story.Basic

/-!
# Scoring

At an outcome node the playthrough gets its outcome and its scorecard, once.  Of the outcome rules
whose condition holds, the one with the lowest priority number applies; among equals the one that
is authored first.
-/

namespace BranchingStory

/-- The outcome rules by priority; rules of equal priority stay in authored order. -/
def byPriority (rules : List OutcomeRule) : List OutcomeRule :=
  rules.mergeSort fun a b => a.priority ≤ b.priority

/-- The outcome rule that applies to a playthrough. -/
def selectOutcome (rules : List OutcomeRule) (s : Playthrough) : Traced (Option OutcomeRule) :=
  Traced.find? (fun rule => testing s rule.condition) (byPriority rules)

/-- Whether a rubric rule applies to a playthrough. -/
def RubricRule.appliesTo (rule : RubricRule) (s : Playthrough) : Traced Bool :=
  match rule.matcher with
  | .condition condition => testing s condition
  | .flag flag => pure (s.hasFlag flag)
  | .anyFlag flags => pure (flags.any s.hasFlag)
  | .never => pure false

/-- What a playthrough is credited with for a rule. -/
def RubricRule.credit (rule : RubricRule) : Credit where
  id := rule.id
  dimension := rule.dimension
  explanation := rule.explanation

/-- The sum of the scores of rules.  It wraps around at the ends of 32 bits, as it does in a release
build; a build with overflow checks stops there instead. -/
def totalScore (rules : List RubricRule) : Amount :=
  rules.foldl (fun total rule => total + rule.score) 0

/-- The rubric result of a playthrough: every rule that applies, in authored order. -/
def Rubric.scorecard (rubric : Rubric) (s : Playthrough) : Traced Scorecard := do
  let counted ← Traced.filter (fun rule => rule.appliesTo s) rubric.rules
  return {
    score := totalScore counted
    maxScore := rubric.maxScore
    credits := counted.map RubricRule.credit }

/-- The playthrough with the outcome of a rule; without a rule it is as before. -/
def Playthrough.withOutcome (s : Playthrough) : Option OutcomeRule → Playthrough
  | some rule =>
      { s with
        outcome := some rule.result
        outcomeDescription := some (rule.description.getD "") }
  | none => s

/-- Score a playthrough that has come to an end; a second scoring changes nothing. -/
def Story.score (story : Story) (s : Playthrough) : Traced Playthrough := do
  if s.isFinished then
    Traced.note (.alreadyScored s.node)
    return s
  let rule ← selectOutcome story.outcomes s
  if rule.isNone then
    Traced.note (.noOutcome s.node)
  let ended := s.withOutcome rule
  let card ← story.rubric.scorecard ended
  Traced.note (.scored ended.outcome ended.node card.score card.maxScore)
  return { ended with scorecard := some card }

end BranchingStory
