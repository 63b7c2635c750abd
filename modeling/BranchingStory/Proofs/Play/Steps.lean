import BranchingStory.Lint.Graph
import BranchingStory.Play.Routing
import Mathlib.Logic.Relation

/-!
# Steps of the story

What one step of routing can do, as a relation with one case for each way on and each way to rest.
Everything about walks is proved from these cases, so no other proof looks at the step function.

Main results:

- `Story.value_step_eq_move_iff`, `Story.value_step_eq_rest_iff`: the relations are what a step
  does.
- `Story.exists_rests_of_arrive`: a playthrough that has arrived has moved from router to router and
  then come to rest; `Story.exists_rests_of_arrive_of_invariant` carries an invariant along.
-/

namespace BranchingStory
namespace Story

variable {story : Story} {s s' t : Playthrough} {stop : Stop} {hops limit : Nat}

/-! ## Moves -/

/-- How the story moves on from a router. -/
inductive Moves (story : Story) (s : Playthrough) : Playthrough → Prop
  /-- Along the first branch whose condition holds. -/
  | branch {branches : List Branch} {default : Option String} {taken : Branch}
      (hnode : story.node? s.node = some (.router branches default))
      (htaken : branches.find? (fun b => (b.isTaken s).value) = some taken) :
      Moves story s {
        s with
        stats := taken.adjustment.applyTo story.bounds s.stats
        node := taken.next }
  /-- Along the default, as no condition holds. -/
  | default {branches : List Branch} {target : String}
      (hnode : story.node? s.node = some (.router branches (some target)))
      (htaken : branches.find? (fun b => (b.isTaken s).value) = none) :
      Moves story s { s with node := target }
  /-- Past a fan-out router that has fired. -/
  | passed {branches : List Branch} {resume : String}
      (hnode : story.node? s.node = some (.fanout branches resume)) (hmark : s.node ∈ s.marks) :
      Moves story s { s with returnNode := none, node := resume }
  /-- Past a fan-out router none of whose conditions holds. -/
  | unmatched {branches : List Branch} {resume : String}
      (hnode : story.node? s.node = some (.fanout branches resume)) (hmark : s.node ∉ s.marks)
      (htaken : branches.filter (fun b => (b.isTaken s).value) = []) :
      Moves story s { s with node := resume }

/-- How a playthrough comes to rest. -/
inductive Rests (story : Story) (s : Playthrough) : Stop → Playthrough → Prop
  | missing (hnode : story.node? s.node = none) : Rests story s .missingNode s
  | interactive {node : Node} (hnode : story.node? s.node = some node)
      (hwaits : node.isInteractive = true) : Rests story s .interactive s
  | outcome {text : NodeText} (hnode : story.node? s.node = some (.outcome text)) :
      Rests story s .outcome (story.score s).value
  /-- At a router that has no way on. -/
  | stalled {branches : List Branch}
      (hnode : story.node? s.node = some (.router branches none))
      (htaken : branches.find? (fun b => (b.isTaken s).value) = none) : Rests story s .stalled s
  /-- At the first stop of a fan-out router that fires. -/
  | fired {branches others : List Branch} {resume : String} {first : Branch}
      (hnode : story.node? s.node = some (.fanout branches resume)) (hmark : s.node ∉ s.marks)
      (htaken : branches.filter (fun b => (b.isTaken s).value) = first :: others) :
      Rests story s .feedback {
        s with
        marks := s.marks.insert s.node
        queue := others.map Branch.next
        returnNode := some resume
        node := first.next }

/-- Scoring leaves a scorecard, and changes nothing else but the outcome. -/
theorem exists_value_score_eq (story : Story) (s : Playthrough) :
    ∃ outcome description card, (story.score s).value = {
      s with
      outcome := outcome
      outcomeDescription := description
      scorecard := some card } := by
  unfold score
  split
  · rename_i hfinished
    obtain ⟨card, hcard⟩ := Option.isSome_iff_exists.mp hfinished
    exact ⟨s.outcome, s.outcomeDescription, card, by simp [← hcard]⟩
  · simp only [Traced.value_bind]
    cases (selectOutcome story.outcomes s).value with
    | none => exact ⟨s.outcome, s.outcomeDescription, _, rfl⟩
    | some rule => exact ⟨some rule.result, some (rule.description.getD ""), _, rfl⟩

/-- The step from where the story moves on is that move. -/
theorem value_step_of_moves (h : story.Moves s s') : (story.step s).value = .move s' := by
  cases h with
  | branch hnode htaken => simp [step, stepRouter, Playthrough.adjust, hnode, htaken]
  | default hnode htaken => simp [step, stepRouter, hnode, htaken]
  | passed hnode hmark => simp [step, stepFanout, hnode, hmark]
  | unmatched hnode hmark htaken => simp [step, stepFanout, hnode, hmark, htaken]

/-- The step from where the story comes to rest is that stop. -/
theorem value_step_of_rests (h : story.Rests s stop s') :
    (story.step s).value = .rest stop s' := by
  cases h with
  | missing hnode => simp [step, hnode]
  | @interactive node hnode hwaits => cases node <;> simp_all [step, Node.isInteractive]
  | outcome hnode => simp [step, hnode]
  | stalled hnode htaken => simp [step, stepRouter, hnode, htaken]
  | fired hnode hmark htaken => simp [step, stepFanout, hnode, hmark, htaken]

/-- Every step moves or rests. -/
theorem exists_moves_or_rests (story : Story) (s : Playthrough) :
    (∃ s', story.Moves s s') ∨ ∃ stop s', story.Rests s stop s' := by
  cases hnode : story.node? s.node with
  | none => exact Or.inr ⟨_, _, .missing hnode⟩
  | some node =>
      cases node with
      | narrative text next nextByLocation => exact Or.inr ⟨_, _, .interactive hnode rfl⟩
      | decision text choices => exact Or.inr ⟨_, _, .interactive hnode rfl⟩
      | outcome text => exact Or.inr ⟨_, _, .outcome hnode⟩
      | router branches fallback =>
          cases htaken : branches.find? (fun b => (b.isTaken s).value) with
          | some taken => exact Or.inl ⟨_, .branch hnode htaken⟩
          | none =>
              cases fallback with
              | some target => exact Or.inl ⟨_, .default hnode htaken⟩
              | none => exact Or.inr ⟨_, _, .stalled hnode htaken⟩
      | fanout branches resume =>
          by_cases hmark : s.node ∈ s.marks
          · exact Or.inl ⟨_, .passed hnode hmark⟩
          · cases htaken : branches.filter (fun b => (b.isTaken s).value) with
            | nil => exact Or.inl ⟨_, .unmatched hnode hmark htaken⟩
            | cons first others => exact Or.inr ⟨_, _, .fired hnode hmark htaken⟩

/-- The step moves exactly as the relation says. -/
theorem value_step_eq_move_iff : (story.step s).value = .move s' ↔ story.Moves s s' := by
  constructor
  · intro h
    rcases story.exists_moves_or_rests s with ⟨t, ht⟩ | ⟨stop, t, ht⟩
    · rw [value_step_of_moves ht] at h
      cases h
      exact ht
    · rw [value_step_of_rests ht] at h
      cases h
  · exact value_step_of_moves

/-- The step rests exactly as the relation says. -/
theorem value_step_eq_rest_iff : (story.step s).value = .rest stop s' ↔ story.Rests s stop s' := by
  constructor
  · intro h
    rcases story.exists_moves_or_rests s with ⟨t, ht⟩ | ⟨stop, t, ht⟩
    · rw [value_step_of_moves ht] at h
      cases h
    · rw [value_step_of_rests ht] at h
      cases h
      exact ht
  · exact value_step_of_rests

/-- A step goes one way only. -/
theorem Moves.unique (h : story.Moves s t) (h' : story.Moves s s') : t = s' :=
  Step.move.inj ((value_step_of_moves h).symm.trans (value_step_of_moves h'))

/-- Where the story comes to rest it does not move on. -/
theorem Rests.not_moves (h : story.Rests s stop s') : ¬ story.Moves s t := by
  intro hmove
  have hstep := (value_step_of_rests h).symm.trans (value_step_of_moves hmove)
  cases hstep

/-- A move leads along one of the ways on that the story takes by itself. -/
theorem Moves.mem_autoSuccessors (h : story.Moves s s') :
    s'.node ∈ story.autoSuccessors s.node := by
  unfold autoSuccessors
  cases h with
  | branch hnode htaken =>
      rw [hnode]
      exact List.mem_append_left _ (List.mem_map_of_mem (List.mem_of_find?_eq_some htaken))
  | default hnode _ =>
      rw [hnode]
      exact List.mem_append_right _ (by simp)
  | passed hnode _ =>
      rw [hnode]
      exact List.mem_singleton_self _
  | unmatched hnode _ _ =>
      rw [hnode]
      exact List.mem_singleton_self _

/-! ## Walks -/

/-- A walk that may pass no router is exhausted in front of one. -/
theorem value_walk_zero (story : Story) (s : Playthrough) :
    (story.walk 0 s).value =
      if story.routesAt s.node then .exhausted s
      else
        match (story.step s).value with
        | .rest stop s => .rested stop s
        | .move s => .exhausted s := by
  rw [walk]
  split
  · rfl
  · rw [Traced.value_bind]
    cases (story.step s).value <;> rfl

/-- A walk is a step and then the walk from there. -/
theorem value_walk_succ (story : Story) (hops : Nat) (s : Playthrough) :
    (story.walk (hops + 1) s).value =
      match (story.step s).value with
      | .rest stop s => .rested stop s
      | .move s => (story.walk hops s).value := by
  rw [walk, Traced.value_bind]
  cases (story.step s).value <;> rfl

/-- A walk that rests has moved some way and then come to rest. -/
theorem exists_rests_of_walk (h : (story.walk hops s).value = .rested stop s') :
    ∃ m, Relation.ReflTransGen story.Moves s m ∧ story.Rests m stop s' := by
  induction hops generalizing s with
  | zero =>
      rw [value_walk_zero] at h
      split at h
      · cases h
      · split at h
        · rename_i hstep
          cases h
          exact ⟨s, .refl, value_step_eq_rest_iff.mp hstep⟩
        · cases h
  | succ hops ih =>
      rw [value_walk_succ] at h
      split at h
      · rename_i hstep
        cases h
        exact ⟨s, .refl, value_step_eq_rest_iff.mp hstep⟩
      · rename_i hstep
        obtain ⟨m, hmoves, hrests⟩ := ih h
        exact ⟨m, hmoves.head (value_step_eq_move_iff.mp hstep), hrests⟩

/-- A walk that is exhausted is an error, with the node in front of which it stopped. -/
theorem value_advance (story : Story) (limit : Nat) (s : Playthrough) :
    (story.advance limit s).value =
      match (story.walk limit s).value with
      | .rested stop s' => ⟨.ok stop, s'⟩
      | .exhausted last => ⟨.error ⟨s.node, last.node, limit⟩, last⟩ := by
  simp only [advance, Traced.value_bind]
  cases (story.walk limit s).value <;> rfl

/-- A playthrough that has arrived has moved some way and then come to rest. -/
theorem exists_rests_of_arrive (h : (story.arrive limit s).value = .ok s') :
    ∃ stop m, Relation.ReflTransGen story.Moves s m ∧ story.Rests m stop s' := by
  simp only [arrive, Traced.value_bind, Traced.value_pure, value_advance] at h
  cases hwalk : (story.walk limit s).value with
  | rested stop t =>
      rw [hwalk] at h
      cases h
      exact ⟨stop, exists_rests_of_walk hwalk⟩
  | exhausted last =>
      rw [hwalk] at h
      cases h

/-- What every move keeps holds where a playthrough that has arrived came to rest. -/
theorem exists_rests_of_arrive_of_invariant {P : Playthrough → Prop}
    (hmoves : ∀ {t t'}, story.Moves t t' → P t → P t')
    (h : (story.arrive limit s).value = .ok s') (hs : P s) :
    ∃ stop m, P m ∧ story.Rests m stop s' := by
  obtain ⟨stop, m, hpath, hrests⟩ := exists_rests_of_arrive h
  refine ⟨stop, m, ?_, hrests⟩
  clear hrests h
  induction hpath with
  | refl => exact hs
  | tail _ hmove ih => exact hmoves hmove ih

end Story
end BranchingStory
