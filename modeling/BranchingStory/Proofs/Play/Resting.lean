import BranchingStory.Proofs.Play.Turns
import BranchingStory.Proofs.Routers.Walks

/-!
# Where a playable story rests

In a story whose graph is in order a playthrough is always at some node, its pending stops are nodes
that wait for the player, and it goes back to some node after them.  This holds also between two
routers, and it is why every walk ends at a node that waits or at an outcome.

Main results:

- `Story.atRest_of_arrive`: a walk ends where the player can act, or at a scored outcome.
- `Story.exists_act`: an action always gives a playthrough.
- `Story.atRest_of_act`: every action leads to rest again.
- `Story.ne_of_act_narrative`: from a narrative that leads on, an action changes the playthrough.
-/

namespace BranchingStory

/-! ## Ways on -/

/-- The ways that the story takes by itself are among all ways on. -/
theorem Node.mem_successors_of_mem_autoSuccessors {node : Node} {target : String}
    (h : target ∈ node.autoSuccessors) : target ∈ node.successors := by
  cases node with
  | router branches fallback => exact h
  | fanout branches resume => exact List.mem_append_right _ h
  | narrative text next nextByLocation => exact absurd h List.not_mem_nil
  | decision text choices => exact absurd h List.not_mem_nil
  | outcome text => exact absurd h List.not_mem_nil

/-- The successor of a narrative is one of its ways on. -/
theorem Node.mem_successors_of_successor?_eq_some {node : Node} {location target : String}
    (h : node.successor? location = some target) : target ∈ node.successors := by
  cases node with
  | narrative text next nextByLocation =>
      rcases Option.or_eq_some_iff.mp h with hbranch | ⟨-, hnext⟩
      · obtain ⟨table, rfl, htarget⟩ := Option.bind_eq_some_iff.mp hbranch
        refine List.mem_append_left _ ?_
        exact List.mem_map.mpr ⟨(location, target), Table.mem_toList_iff.mpr htarget, rfl⟩
      · exact List.mem_append_right _ (by simp [hnext])
  | decision text choices => cases h
  | router branches fallback => cases h
  | fanout branches resume => cases h
  | outcome text => cases h

/-- Where a choice leads is one of the ways on. -/
theorem Node.next_mem_successors {node : Node} {choice : Choice} (h : choice ∈ node.choices) :
    choice.next ∈ node.successors := by
  cases node with
  | decision text choices => exact List.mem_map_of_mem h
  | narrative text next nextByLocation => exact absurd h List.not_mem_nil
  | router branches fallback => exact absurd h List.not_mem_nil
  | fanout branches resume => exact absurd h List.not_mem_nil
  | outcome text => exact absurd h List.not_mem_nil

namespace Story

variable {story : Story} {limit : Nat} {s s' : Playthrough} {stop : Stop} {choice : Option Choice}
  {source : Source}

/-- What holds of a playthrough all along, also while it passes routers. -/
structure OnCourse (story : Story) (s : Playthrough) : Prop where
  node : story.Has s.node
  queue : ∀ stop ∈ s.queue, stop ≠ "" ∧ story.WaitsAt stop
  returnNode : ∀ resume, s.returnNode = some resume → story.Has resume
  location : s.location ∈ story.locations.keys

/-- The playthrough waits for the player at a narrative or a decision, or it has ended at an outcome
and is scored. -/
def WaitsOrEnds (story : Story) (s : Playthrough) : Prop :=
  story.WaitsAt s.node ∨
    (∃ text, story.node? s.node = some (.outcome text)) ∧ s.isFinished = true

/-- What holds of a playthrough between two actions. -/
structure AtRest (story : Story) (s : Playthrough) : Prop extends OnCourse story s where
  rests : story.WaitsOrEnds s

/-! ## Steps -/

/-- In a story that can be played, moving on leads to a node. -/
theorem Moves.has (hplay : story.Playable) (h : story.Moves s s') : story.Has s'.node := by
  have hnext := h.mem_autoSuccessors
  unfold autoSuccessors at hnext
  split at hnext
  · rename_i node hnode
    exact (hplay.successors hnode (Node.mem_successors_of_mem_autoSuccessors hnext)).2
  · exact absurd hnext List.not_mem_nil

/-- Moving on stays on course. -/
theorem Moves.onCourse (hplay : story.Playable) (h : story.Moves s s') (hs : story.OnCourse s) :
    story.OnCourse s' := by
  have hnode := h.has hplay
  cases h with
  | branch _ _ => exact { hs with node := hnode }
  | default _ _ => exact { hs with node := hnode }
  | passed _ _ => exact { hs with node := hnode, returnNode := nofun }
  | unmatched _ _ _ => exact { hs with node := hnode }

/-- A fan-out router that fires sends the player to nodes that wait. -/
theorem waitsAt_of_mem_filter {branches taken : List Branch} {resume : String} {branch : Branch}
    {test : Branch → Bool} (hplay : story.Playable)
    (hnode : story.node? s.node = some (.fanout branches resume))
    (htaken : branches.filter test = taken) (hbranch : branch ∈ taken) :
    branch.next ≠ "" ∧ story.WaitsAt branch.next := by
  rw [← htaken] at hbranch
  have hmem := List.mem_of_mem_filter hbranch
  have hnext : branch.next ∈ (Node.fanout branches resume).successors :=
    List.mem_append_left _ (List.mem_map_of_mem hmem)
  exact ⟨(hplay.successors hnode hnext).1, hplay.feedback hnode hmem⟩

/-- What is on course comes to rest properly. -/
theorem Rests.atRest (hplay : story.Playable) (h : story.Rests s stop s')
    (hs : story.OnCourse s) : story.AtRest s' := by
  cases h with
  | missing hnode =>
      obtain ⟨node, hsome⟩ := hs.node
      rw [hnode] at hsome
      cases hsome
  | interactive hnode hwaits => exact { hs with rests := Or.inl ⟨_, hnode, hwaits⟩ }
  | outcome hnode =>
      obtain ⟨outcome, description, card, hscore⟩ := story.exists_value_score_eq s
      rw [hscore]
      exact { hs with rests := Or.inr ⟨⟨_, hnode⟩, rfl⟩ }
  | stalled hnode _ => exact absurd hnode hplay.defaults
  | @fired branches others resume first hnode _ htaken =>
      have hfirst := (waitsAt_of_mem_filter hplay hnode htaken List.mem_cons_self).2
      have hresume : resume ∈ (Node.fanout branches resume).successors :=
        List.mem_append_right _ List.mem_cons_self
      refine ⟨⟨hfirst.has, ?_, ?_, hs.location⟩, Or.inl hfirst⟩
      · intro stop hstop
        obtain ⟨branch, hbranch, rfl⟩ := List.mem_map.mp hstop
        exact waitsAt_of_mem_filter hplay hnode htaken (List.mem_cons_of_mem _ hbranch)
      · rintro _ ⟨⟩
        exact (hplay.successors hnode hresume).2

/-- A walk ends where the player can act, or at a scored outcome. -/
theorem atRest_of_arrive (hplay : story.Playable) (h : (story.arrive limit s).value = .ok s')
    (hs : story.OnCourse s) : story.AtRest s' := by
  obtain ⟨stop, m, hm, hrests⟩ :=
    exists_rests_of_arrive_of_invariant (Moves.onCourse hplay) h hs
  exact hrests.atRest hplay hm

/-! ## Actions -/

/-- An action always gives a playthrough, as no walk is exhausted. -/
theorem exists_act (hplay : story.Playable) (hlimit : story.routerIds.length ≤ limit)
    (s : Playthrough) (choice : Option Choice) (source : Source) :
    ∃ s', (story.act limit s choice source).value.result = .ok s' := by
  have hacts := story.acts_act limit s choice source
  generalize (story.act limit s choice source).value.result = result at hacts ⊢
  cases hacts with
  | idle _ => exact ⟨s, rfl⟩
  | nextStop _ _ _ => exact ⟨_, rfl⟩
  | resumed _ _ _ => exact exists_arrive hplay.cycles hlimit _
  | continued _ _ _ => exact exists_arrive hplay.cycles hlimit _
  | leftFeedback _ _ _ _ => exact exists_arrive hplay.cycles hlimit _
  | chose _ _ _ _ => exact exists_arrive hplay.cycles hlimit _

/-- Every action leads to rest again, if a choice leads to a node. -/
theorem atRest_of_act (hplay : story.Playable)
    (h : (story.act limit s choice source).value.result = .ok s')
    (hchoice : ∀ chosen, choice = some chosen → story.Has chosen.next) (hs : story.AtRest s) :
    story.AtRest s' := by
  have hacts := story.acts_act limit s choice source
  generalize (story.act limit s choice source).value.result = result at h hacts
  cases hacts with
  | idle _ =>
      cases h
      exact hs
  | @nextStop node stop rest _ hqueue _ =>
      cases h
      have hstop := hs.queue stop (by simp [hqueue])
      refine ⟨⟨hstop.2.has, fun next hnext => ?_, hs.returnNode, hs.location⟩, Or.inl hstop.2⟩
      exact hs.queue next (by simp [hqueue, hnext])
  | resumed _ hqueue _ => exact absurd rfl (hs.queue "" (by simp [hqueue])).1
  | continued hnode _ hnext =>
      have htarget := hplay.successors hnode (Node.mem_successors_of_successor?_eq_some hnext)
      exact atRest_of_arrive hplay h { hs.toOnCourse with node := htarget.2 }
  | leftFeedback _ _ _ hreturn =>
      have hresume := hs.returnNode _ hreturn
      exact atRest_of_arrive hplay h
        { hs.toOnCourse with node := hresume, returnNode := nofun }
  | chose _ _ hchosen _ =>
      exact atRest_of_arrive hplay h
        { hs.toOnCourse with node := hchoice _ hchosen, returnNode := nofun }

/-! ## Continuing -/

/-- Moving on records no visit. -/
theorem Moves.history (h : story.Moves s s') : s'.history = s.history := by
  cases h <;> rfl

/-- Coming to rest records no visit. -/
theorem Rests.history (h : story.Rests s stop s') : s'.history = s.history := by
  cases h with
  | outcome _ =>
      obtain ⟨_, _, _, hscore⟩ := story.exists_value_score_eq s
      rw [hscore]
  | missing _ | interactive _ _ | stalled _ _ | fired _ _ _ => rfl

/-- Passing routers is not recorded. -/
theorem history_of_arrive (h : (story.arrive limit s).value = .ok s') :
    s'.history = s.history := by
  obtain ⟨stop, m, hm, hrests⟩ := exists_rests_of_arrive_of_invariant
    (P := fun t => t.history = s.history) (fun hmove ht => hmove.history.trans ht) h rfl
  exact hrests.history.trans hm

/-- At a narrative that leads on, no action is idle. -/
theorem not_idle_of_narrative {text : NodeText} {next : Option String}
    {nextByLocation : Option (Table String)} (hs : story.OnCourse s)
    (hnode : story.node? s.node = some (.narrative text next nextByLocation))
    (hnext : (Node.narrative text next nextByLocation).successor? s.location ≠ none) :
    ¬ story.Idle s choice := by
  intro hidle
  cases hidle with
  | nowhere hother =>
      rw [hnode] at hother
      cases hother
  | lostStop _ hqueue _ => exact (hs.queue "" (by simp [hqueue])).1 rfl
  | ending hother _ hnone _ =>
      rw [hnode] at hother
      cases hother
      exact hnext hnone
  | undecided hother _ _ =>
      rw [hnode] at hother
      cases hother
  | rejected hother _ _ _ =>
      rw [hnode] at hother
      cases hother
  | notWaiting hother _ hwaits =>
      rw [hnode] at hother
      cases hother
      cases hwaits

/-- From a narrative that leads on, an action changes the playthrough: a stop less is pending, or a
visit more is recorded. -/
theorem ne_of_act_narrative {text : NodeText} {next : Option String}
    {nextByLocation : Option (Table String)}
    (h : (story.act limit s choice source).value.result = .ok s') (hs : story.OnCourse s)
    (hnode : story.node? s.node = some (.narrative text next nextByLocation))
    (hnext : (Node.narrative text next nextByLocation).successor? s.location ≠ none) :
    s' ≠ s := by
  have hacts := story.acts_act limit s choice source
  generalize (story.act limit s choice source).value.result = result at h hacts
  cases hacts with
  | idle hidle => exact absurd hidle (not_idle_of_narrative hs hnode hnext)
  | nextStop _ hqueue _ =>
      cases h
      intro heq
      have hrest := congrArg Playthrough.queue heq
      simp [hqueue] at hrest
  | resumed _ hqueue _ => exact absurd rfl (hs.queue "" (by simp [hqueue])).1
  | continued _ _ _ =>
      rintro rfl
      have hhistory := history_of_arrive h
      simp at hhistory
  | leftFeedback _ _ _ _ =>
      rintro rfl
      have hhistory := history_of_arrive h
      simp at hhistory
  | chose hdecision _ _ _ =>
      rw [hnode] at hdecision
      cases hdecision

end Story
end BranchingStory
