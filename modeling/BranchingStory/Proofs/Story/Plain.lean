import BranchingStory.Story.Basic

/-!
# Plain stories

Stories that differ in their nodes and outcome rules only.  Every stat goes from zero to ten, there
is one persona at one location, and nothing is adjusted at the start.

Main results:

- `Story.ofDocument?_plain`: a plain document is a story, whatever its nodes are.
-/

namespace BranchingStory

/-- Bounds from zero to ten for every stat. -/
def SystemSection.plain : SystemSection where
  variableBounds := Table.ofList (Stat.all.map fun stat => (stat.key, ⟨0, 10⟩))
  skillBounds := ∅
  initialValues := ∅

/-- A document with plain bounds, one persona and one location. -/
def Document.plain (nodes : List (String × Node)) (outcomes : List OutcomeRule) : Document where
  version := none
  system := .plain
  personas := Table.ofList [("Student", .none)]
  locations := Table.ofList [("River", .none)]
  personaInfo := ∅
  locationInfo := ∅
  nodes := Table.ofList nodes
  outcomes := outcomes
  rubric := ⟨[], 0⟩

/-- The story of a plain document. -/
def Story.plain (nodes : List (String × Node)) (outcomes : List OutcomeRule) : Story where
  toDocument := .plain nodes outcomes
  bounds := .uniform ⟨0, 10⟩

/-- A plain document is a story, whatever its nodes are. -/
theorem Story.ofDocument?_plain (nodes : List (String × Node)) (outcomes : List OutcomeRule) :
    Story.ofDocument? (.plain nodes outcomes) = .ok (.plain nodes outcomes) := by
  have hsystem : Stat.all.findSome? SystemSection.plain.boundsDefect? = none := by decide
  have hdefect : (Document.plain nodes outcomes).defect? = none := by
    unfold Document.defect?
    rw [show (Document.plain nodes outcomes).system = .plain from rfl, hsystem]
    rfl
  have hbounds : (PerStat.ofFn fun stat => (SystemSection.plain.bounds? stat).getD ⟨0, 0⟩) =
      .uniform ⟨0, 10⟩ := by decide
  unfold ofDocument?
  rw [hdefect, show (Document.plain nodes outcomes).system = .plain from rfl, hbounds]
  rfl

end BranchingStory
