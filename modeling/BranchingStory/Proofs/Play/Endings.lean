import BranchingStory.Proofs.Play.Feedback
import BranchingStory.Proofs.Play.Scoring

/-!
# How a game ends

A playthrough is scored when it comes to rest at an outcome, and it only comes to rest there while
no stop is pending.  An action at such a place has no effect, so a game that is over stays as it is,
together with its results.

Main results:

- `Story.value_act_of_isOver`: once the game is over, an action has no effect and draws nothing.
- `Story.unscored_or_isOver_of_act`: every action leaves the game open or over.
-/

namespace BranchingStory
namespace Story

variable {story : Story} {limit : Nat} {s s' t m : Playthrough} {stop : Stop}
  {choice : Option Choice} {source : Source}

/-- The game is over: the playthrough has been scored at an outcome while no stop was pending, and
not changed since. -/
inductive IsOver (story : Story) : Playthrough → Prop
  | scored {s : Playthrough} {text : NodeText} (hnode : story.node? s.node = some (.outcome text))
      (hqueue : s.queue = []) (hunscored : s.Unscored) : IsOver story (story.score s).value

namespace IsOver

/-- A game is over at an outcome. -/
theorem exists_node (h : story.IsOver s) : ∃ text, story.node? s.node = some (.outcome text) := by
  cases h with
  | @scored s text hnode _ _ =>
      obtain ⟨_, _, _, hscore⟩ := story.exists_value_score_eq s
      rw [hscore]
      exact ⟨text, hnode⟩

/-- Where a game is over no stop is pending. -/
theorem queue_eq_nil (h : story.IsOver s) : s.queue = [] := by
  cases h with
  | @scored s _ _ hqueue _ =>
      obtain ⟨_, _, _, hscore⟩ := story.exists_value_score_eq s
      rw [hscore]
      exact hqueue

/-- A game that is over is scored. -/
theorem isScored (h : story.IsOver s) : story.IsScored s := by
  cases h with
  | scored _ _ hunscored => exact isScored_score hunscored

end IsOver

/-- Once the game is over, an action has no effect and draws nothing. -/
theorem value_act_of_isOver (h : story.IsOver s) (choice : Option Choice) (source : Source) :
    (story.act limit s choice source).value = ⟨.ok s, source⟩ := by
  obtain ⟨text, hnode⟩ := h.exists_node
  simp [act, hnode, h.queue_eq_nil]

/-! ## Open games -/

/-- Moving on scores nothing. -/
theorem Moves.unscored (h : story.Moves s s') (hs : s.Unscored) : s'.Unscored := by
  cases h <;> exact ⟨hs.outcome, hs.outcomeDescription, hs.scorecard⟩

/-- Nor does moving on several times. -/
theorem unscored_of_moves (h : Relation.ReflTransGen story.Moves s m) (hs : s.Unscored) :
    m.Unscored := by
  induction h with
  | refl => exact hs
  | tail _ hmove ih => exact hmove.unscored ih

/-- Setting out scores nothing. -/
theorem SetsOut.unscored (h : story.SetsOut s choice source t) (hs : s.Unscored) : t.Unscored := by
  cases h <;> exact ⟨hs.outcome, hs.outcomeDescription, hs.scorecard⟩

/-- A playthrough that comes to rest is still unscored, or the game is over. -/
theorem Rests.unscored_or_isOver (h : story.Rests m stop s') (hm : m.Unscored)
    (hqueue : m.queue = []) : s'.Unscored ∨ story.IsOver s' := by
  cases h with
  | missing _ => exact Or.inl hm
  | interactive _ _ => exact Or.inl hm
  | outcome hnode => exact Or.inr (.scored hnode hqueue hm)
  | stalled _ _ => exact Or.inl hm
  | fired _ _ _ => exact Or.inl ⟨hm.outcome, hm.outcomeDescription, hm.scorecard⟩

/-- Where the story arrives the game is open or over, if it set out open and without stops. -/
theorem unscored_or_isOver_of_arrive (h : (story.arrive limit s).value = .ok s') (hs : s.Unscored)
    (hqueue : s.queue = []) : s'.Unscored ∨ story.IsOver s' := by
  obtain ⟨stop, m, hm, hrests⟩ := exists_rests_of_arrive_of_invariant
    (P := fun t => t.Unscored ∧ t.queue = [])
    (fun hmove ht => ⟨hmove.unscored ht.1, hmove.queue.trans ht.2⟩) h ⟨hs, hqueue⟩
  exact hrests.unscored_or_isOver hm.1 hm.2

/-- Every action leaves the game open or over. -/
theorem unscored_or_isOver_of_act (h : (story.act limit s choice source).value.result = .ok s')
    (hs : s.Unscored ∨ story.IsOver s) : s'.Unscored ∨ story.IsOver s' := by
  rcases hs with hs | hs
  · rcases story.setsOut_or_stays limit s choice source with
      ⟨t, hsets, hresult⟩ | hresult | ⟨next, rest, _, hresult⟩
    · rw [hresult] at h
      exact unscored_or_isOver_of_arrive h (hsets.unscored hs) hsets.queue_eq_nil
    · rw [hresult] at h
      cases h
      exact Or.inl hs
    · rw [hresult] at h
      cases h
      exact Or.inl ⟨hs.outcome, hs.outcomeDescription, hs.scorecard⟩
  · rw [value_act_of_isOver hs] at h
    cases h
    exact Or.inr hs

/-- A playthrough that is finished is not an open one. -/
theorem isOver_of_isFinished (h : s.Unscored ∨ story.IsOver s) (hfinished : s.isFinished = true) :
    story.IsOver s := by
  rcases h with hs | hs
  · rw [Playthrough.isFinished, hs.scorecard] at hfinished
    cases hfinished
  · exact hs

end Story
end BranchingStory
