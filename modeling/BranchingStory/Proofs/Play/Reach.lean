import BranchingStory.Proofs.Lint.Reachability
import BranchingStory.Proofs.Play.Resting

/-!
# Where a playthrough can be

A playthrough holds ids in three places: where it is, where it will stop, and where it goes on after
its stops.  Each of them was a way on from a node at which the playthrough was, so ways on lead to
it from wherever the playthrough began.  This needs nothing of the story: ids that are not nodes can
be held as well, and nothing leads on from them.

Main results:

- `Story.inReach_of_arrive`: passing routers leads to places in reach.
- `Story.inReach_of_act`: so does an action, if its choice is one of those at the node.
-/

namespace BranchingStory
namespace Story

variable {story : Story} {limit : Nat} {start : String} {s s' t : Playthrough} {stop : Stop}
  {choice : Option Choice} {source : Source}

/-- Ways on lead from an id to all that a playthrough holds. -/
structure InReach (story : Story) (start : String) (s : Playthrough) : Prop where
  node : story.PathTo start s.node
  queue : ∀ stop ∈ s.queue, story.PathTo start stop
  returnNode : ∀ resume, s.returnNode = some resume → story.PathTo start resume

/-- A way on from a place in reach leads to another. -/
theorem InReach.pathTo (hs : story.InReach start s) {node : Node} {target : String}
    (hnode : story.node? s.node = some node) (htarget : target ∈ node.successors) :
    story.PathTo start target :=
  hs.node.tail ⟨node, hnode, htarget⟩

/-! ## Passing routers -/

/-- Moving on follows a way on. -/
theorem Moves.pathTo (h : story.Moves s s') (hs : story.InReach start s) :
    story.PathTo start s'.node := by
  have hnext := h.mem_autoSuccessors
  unfold autoSuccessors at hnext
  split at hnext
  · rename_i node hnode
    exact hs.pathTo hnode (Node.mem_successors_of_mem_autoSuccessors hnext)
  · exact absurd hnext List.not_mem_nil

/-- What moves on stays in reach. -/
theorem Moves.inReach (h : story.Moves s s') (hs : story.InReach start s) :
    story.InReach start s' := by
  have hnode := h.pathTo hs
  cases h with
  | branch _ _ => exact { hs with node := hnode }
  | default _ _ => exact { hs with node := hnode }
  | passed _ _ => exact { hs with node := hnode, returnNode := nofun }
  | unmatched _ _ _ => exact { hs with node := hnode }

/-- A fan-out router that fires puts its own ways on in all three places. -/
theorem Rests.inReach (h : story.Rests s stop s') (hs : story.InReach start s) :
    story.InReach start s' := by
  cases h with
  | missing _ | interactive _ _ | stalled _ _ => exact hs
  | outcome _ =>
      obtain ⟨outcome, description, card, hscore⟩ := story.exists_value_score_eq s
      rw [hscore]
      exact ⟨hs.node, hs.queue, hs.returnNode⟩
  | @fired branches others resume first hnode _ htaken =>
      have hbranch : ∀ branch ∈ first :: others,
          branch.next ∈ (Node.fanout branches resume).successors := by
        intro branch htaking
        rw [← htaken] at htaking
        exact List.mem_append_left _ (List.mem_map_of_mem (List.mem_of_mem_filter htaking))
      have hresume : resume ∈ (Node.fanout branches resume).successors :=
        List.mem_append_right _ List.mem_cons_self
      refine ⟨hs.pathTo hnode (hbranch first List.mem_cons_self), ?_, ?_⟩
      · intro stop hstop
        obtain ⟨branch, hother, rfl⟩ := List.mem_map.mp hstop
        exact hs.pathTo hnode (hbranch branch (List.mem_cons_of_mem _ hother))
      · rintro _ ⟨⟩
        exact hs.pathTo hnode hresume

/-- Passing routers leads to places in reach. -/
theorem inReach_of_arrive (h : (story.arrive limit s).value = .ok s')
    (hs : story.InReach start s) : story.InReach start s' := by
  obtain ⟨stop, m, hm, hrests⟩ := exists_rests_of_arrive_of_invariant Moves.inReach h hs
  exact hrests.inReach hm

/-! ## Actions -/

/-- An action sets out from a place in reach, if its choice is one of those at the node. -/
theorem SetsOut.inReach (h : story.SetsOut s choice source t)
    (hchoice : ∀ chosen, choice = some chosen →
      ∃ node, story.node? s.node = some node ∧ chosen ∈ node.choices)
    (hs : story.InReach start s) : story.InReach start t := by
  cases h with
  | resumed _ _ hreturn => exact ⟨hs.returnNode _ hreturn, nofun, nofun⟩
  | continued hnode _ hnext =>
      have htarget := Node.mem_successors_of_successor?_eq_some hnext
      exact ⟨hs.pathTo hnode htarget, hs.queue, hs.returnNode⟩
  | leftFeedback _ _ _ hreturn => exact ⟨hs.returnNode _ hreturn, hs.queue, nofun⟩
  | chose _ _ hchosen _ =>
      obtain ⟨node, hnode, hmem⟩ := hchoice _ hchosen
      exact ⟨hs.pathTo hnode (Node.next_mem_successors hmem), hs.queue, nofun⟩

/-- An action leads to places in reach, if its choice is one of those at the node. -/
theorem inReach_of_act (h : (story.act limit s choice source).value.result = .ok s')
    (hchoice : ∀ chosen, choice = some chosen →
      ∃ node, story.node? s.node = some node ∧ chosen ∈ node.choices)
    (hs : story.InReach start s) : story.InReach start s' := by
  rcases story.setsOut_or_stays limit s choice source with
    ⟨t, hsets, hresult⟩ | hsame | ⟨stop, rest, hqueue, hresult⟩
  · exact inReach_of_arrive (hresult.symm.trans h) (hsets.inReach hchoice hs)
  · cases hsame.symm.trans h
    exact hs
  · cases hresult.symm.trans h
    have hstop : ∀ next ∈ stop :: rest, story.PathTo start next := hqueue ▸ hs.queue
    exact ⟨hstop stop List.mem_cons_self,
      fun next hnext => hstop next (List.mem_cons_of_mem _ hnext), hs.returnNode⟩

end Story
end BranchingStory
