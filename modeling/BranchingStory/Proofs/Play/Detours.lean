import BranchingStory.Proofs.Play.Endings

/-!
# Detours

A playthrough that leaves a feedback stop along a way of its own is on a detour: the story is still
to go on after the excursion.  A detour lasts while the way leads along narratives and past routers.
It is over when the story goes on after the excursion, when a choice is taken, and when the way
leads back past a fan-out router that has fired.  An outcome does not end it.

Main results:

- `Story.onDetour_of_act`: where the story is still to go on after an excursion, the playthrough has
  come from a stop without a choice and without passing the router again.
- `Story.returnNode_eq_none_iff_of_rests`: a walk ends a detour exactly if it passes a fan-out
  router that has fired.
- `Story.exists_setsOut_of_isFinished`: which actions end the game on a detour.
-/

namespace BranchingStory

/-- Whether the node is a fan-out router. -/
def Node.isFanout : Node → Bool
  | fanout .. => true
  | _ => false

namespace Story

variable {story : Story} {limit : Nat} {s s' t m : Playthrough} {stop : Stop}
  {choice : Option Choice} {source : Source}

/-! ## Fan-out routers that have fired -/

/-- The playthrough is at a fan-out router that has fired. -/
def AtFired (story : Story) (s : Playthrough) : Prop :=
  s.node ∈ s.marks ∧ ∃ branches resume, story.node? s.node = some (.fanout branches resume)

/-- By itself the story gets to a fan-out router that has fired. -/
def PassesFired (story : Story) (s : Playthrough) : Prop :=
  ∃ t, Relation.ReflTransGen story.Moves s t ∧ story.AtFired t

/-- No other node is a fan-out router that has fired. -/
theorem not_atFired {node : Node} (hnode : story.node? s.node = some node)
    (hfanout : node.isFanout = false) : ¬ story.AtFired s := by
  rintro ⟨_, branches, resume, hother⟩
  rw [hnode] at hother
  cases hother
  cases hfanout

/-- Moving on marks nothing. -/
theorem Moves.marks (h : story.Moves s s') : s'.marks = s.marks := by
  cases h <;> rfl

/-- Passing a fan-out router that has fired ends an excursion, and no other move does. -/
theorem Moves.atFired_or_returnNode (h : story.Moves s s') :
    story.AtFired s ∧ s'.returnNode = none ∨ ¬ story.AtFired s ∧ s'.returnNode = s.returnNode := by
  cases h with
  | branch hnode _ => exact Or.inr ⟨not_atFired hnode rfl, rfl⟩
  | default hnode _ => exact Or.inr ⟨not_atFired hnode rfl, rfl⟩
  | passed hnode hmark => exact Or.inl ⟨⟨hmark, _, _, hnode⟩, rfl⟩
  | unmatched _ hmark _ => exact Or.inr ⟨fun hfired => hmark hfired.1, rfl⟩

/-- No move begins an excursion. -/
theorem Moves.returnNode_eq_none (h : story.Moves s s') (hs : s.returnNode = none) :
    s'.returnNode = none := by
  rcases h.atFired_or_returnNode with ⟨_, hnone⟩ | ⟨_, hsame⟩
  · exact hnone
  · exact hsame.trans hs

/-- At a fan-out router that has fired no walk comes to rest. -/
theorem Rests.not_atFired (h : story.Rests s stop s') : ¬ story.AtFired s := by
  rintro ⟨hmark, branches, resume, hnode⟩
  exact h.not_moves (.passed hnode hmark)

/-- A walk ends an excursion exactly if it passes a fan-out router that has fired. -/
theorem returnNode_eq_none_iff_of_rests (hmoves : Relation.ReflTransGen story.Moves s m)
    (hrests : story.Rests m stop s') :
    m.returnNode = none ↔ s.returnNode = none ∨ story.PassesFired s := by
  induction hmoves using Relation.ReflTransGen.head_induction_on with
  | refl =>
      refine ⟨Or.inl, ?_⟩
      rintro (hnone | ⟨t, hpath, hfired⟩)
      · exact hnone
      · rcases hpath.cases_head with rfl | ⟨next, hmove, _⟩
        · exact absurd hfired hrests.not_atFired
        · exact absurd hmove hrests.not_moves
  | @head s t hmove _ ih =>
      rw [ih]
      rcases hmove.atFired_or_returnNode with ⟨hfired, hnone⟩ | ⟨hnot, hsame⟩
      · exact iff_of_true (Or.inl hnone) (Or.inr ⟨s, .refl, hfired⟩)
      · rw [hsame]
        refine or_congr_right ⟨?_, ?_⟩
        · rintro ⟨p, hpath, hfired⟩
          exact ⟨p, hpath.head hmove, hfired⟩
        · rintro ⟨p, hpath, hfired⟩
          rcases hpath.cases_head with rfl | ⟨next, hother, hrest⟩
          · exact absurd hfired hnot
          · exact ⟨p, hmove.unique hother ▸ hrest, hfired⟩

/-! ## Coming from a stop -/

/-- The story leads from an id to the next one without a choice, and the id is not the one to
avoid. -/
def LeadsPast (story : Story) (avoid id next : String) : Prop :=
  id ≠ avoid ∧ (next ∈ story.autoSuccessors id ∨
    ∃ node location, story.node? id = some node ∧ node.successor? location = some next)

/-- The story is still to go on after the excursion of a fan-out router that has fired, and the
playthrough has come from one of its stops without a choice and without passing the router again. -/
def OnDetour (story : Story) (s : Playthrough) : Prop :=
  ∃ router ∈ s.marks, ∃ branches resume,
    story.node? router = some (.fanout branches resume) ∧ s.returnNode = some resume ∧
      ∃ stop ∈ branches.map Branch.next,
        Relation.ReflTransGen (story.LeadsPast router) stop s.node

/-- A playthrough at a stop has not left it yet. -/
theorem AtStop.onDetour (h : story.AtStop s) : story.OnDetour s := by
  obtain ⟨branches, resume, hreturn, ⟨router, hmark, hnode⟩, hstop⟩ := h
  exact ⟨router, hmark, branches, resume, hnode, hreturn, s.node, hstop, .refl⟩

/-- A detour goes on from a node that is no fan-out router that has fired. -/
theorem OnDetour.step (h : story.OnDetour s) (hmarks : s'.marks = s.marks)
    (hreturn : s'.returnNode = s.returnNode) (hfired : ¬ story.AtFired s)
    (hnext : s'.node ∈ story.autoSuccessors s.node ∨
      ∃ node location, story.node? s.node = some node ∧
        node.successor? location = some s'.node) :
    story.OnDetour s' := by
  obtain ⟨router, hmark, branches, resume, hnode, hresume, stop, hstop, hpath⟩ := h
  have hne : s.node ≠ router := by
    rintro rfl
    exact hfired ⟨hmark, branches, resume, hnode⟩
  exact ⟨router, hmarks ▸ hmark, branches, resume, hnode, hreturn.trans hresume, stop, hstop,
    hpath.tail ⟨hne, hnext⟩⟩

/-- Moving on keeps a detour or ends it. -/
theorem Moves.onDetour (h : story.Moves s s') (hs : s.returnNode = none ∨ story.OnDetour s) :
    s'.returnNode = none ∨ story.OnDetour s' := by
  rcases hs with hnone | hdetour
  · exact Or.inl (h.returnNode_eq_none hnone)
  · rcases h.atFired_or_returnNode with ⟨_, hnone⟩ | ⟨hfired, hsame⟩
    · exact Or.inl hnone
    · exact Or.inr (hdetour.step h.marks hsame hfired (Or.inl h.mem_autoSuccessors))

/-- Coming to rest keeps a detour, and the first stop of an excursion is the beginning of one. -/
theorem Rests.onDetour (h : story.Rests m stop s') (hm : m.returnNode = none ∨ story.OnDetour m) :
    s'.returnNode = none ∨ story.OnDetour s' := by
  cases h with
  | missing _ => exact hm
  | interactive _ _ => exact hm
  | outcome _ =>
      obtain ⟨_, _, _, hscore⟩ := story.exists_value_score_eq m
      rw [hscore]
      exact hm
  | stalled _ _ => exact hm
  | fired hnode hmark htaken => exact Or.inr (Rests.fired hnode hmark htaken).atStop.onDetour

/-- Where the story arrives there is a detour, or it is not to go on after an excursion. -/
theorem onDetour_of_arrive (h : (story.arrive limit s).value = .ok s')
    (hs : s.returnNode = none ∨ story.OnDetour s) : s'.returnNode = none ∨ story.OnDetour s' := by
  obtain ⟨stop, m, hm, hrests⟩ := exists_rests_of_arrive_of_invariant
    (P := fun t => t.returnNode = none ∨ story.OnDetour t) Moves.onDetour h hs
  exact hrests.onDetour hm

/-! ## Actions -/

/-- No stop is pending, and the node leads on from the location of the player by itself. -/
def LeadsOn (story : Story) (s : Playthrough) : Prop :=
  s.queue = [] ∧ ∃ node target,
    story.node? s.node = some node ∧ node.successor? s.location = some target

/-- An excursion is over where an action sets out, unless the node leads on by itself. -/
theorem SetsOut.returnNode_eq_none_iff (h : story.SetsOut s choice source t) :
    t.returnNode = none ↔ s.returnNode = none ∨ ¬ story.LeadsOn s := by
  cases h with
  | resumed _ hqueue _ =>
      refine iff_of_true rfl (Or.inr ?_)
      rintro ⟨hnil, _⟩
      rw [hqueue] at hnil
      cases hnil
  | continued hnode hqueue hnext =>
      have hleads : story.LeadsOn s := ⟨hqueue, _, _, hnode, hnext⟩
      simp [hleads]
  | leftFeedback hnode _ hnext _ =>
      refine iff_of_true rfl (Or.inr ?_)
      rintro ⟨_, node, target, hother, htarget⟩
      rw [hnode] at hother
      cases hother
      rw [hnext] at htarget
      cases htarget
  | chose hnode _ _ _ =>
      refine iff_of_true rfl (Or.inr ?_)
      rintro ⟨_, node, target, hother, htarget⟩
      rw [hnode] at hother
      cases hother
      cases htarget

/-- Setting out from a state in order either clears the way back or keeps to a detour. -/
theorem SetsOut.onDetour (h : story.SetsOut s choice source t)
    (hs : s.returnNode = none ∨ story.OnDetour s) :
    t.returnNode = none ∨ story.OnDetour t := by
  cases h with
  | resumed _ _ _ => exact Or.inl rfl
  | continued hnode _ hnext =>
      rcases hs with hnone | hdetour
      · exact Or.inl hnone
      · exact Or.inr (hdetour.step rfl rfl (not_atFired hnode rfl) (Or.inr ⟨_, _, hnode, hnext⟩))
  | leftFeedback _ _ _ _ => exact Or.inl rfl
  | chose _ _ _ _ => exact Or.inl rfl

/-- Where the story is still to go on after an excursion, the playthrough is on a detour. -/
theorem onDetour_of_act (h : (story.act limit s choice source).value.result = .ok s')
    (haccount : story.FeedbackAccounted s) (hs : s.returnNode = none ∨ story.OnDetour s) :
    s'.returnNode = none ∨ story.OnDetour s' := by
  rcases story.setsOut_or_stays limit s choice source with
    ⟨t, hsets, hresult⟩ | hresult | ⟨next, rest, hqueue, hresult⟩
  · rw [hresult] at h
    exact onDetour_of_arrive h (hsets.onDetour hs)
  · rw [hresult] at h
    cases h
    exact hs
  · rw [hresult] at h
    cases h
    exact Or.inr (haccount.atStop_next hqueue).onDetour

/-! ## The end of the game -/

/-- A playthrough that is scored when it comes to rest has come to rest at an outcome. -/
theorem Rests.eq_score_of_isFinished (h : story.Rests m stop s') (hm : m.Unscored)
    (hfinished : s'.isFinished = true) : s' = (story.score m).value := by
  cases h with
  | outcome _ => rfl
  | _ => simp [Playthrough.isFinished, hm.scorecard] at hfinished

/-- A walk that ends the game leaves an excursion pending exactly if one was pending before and no
fan-out router that has fired is passed on the way. -/
theorem inFeedback_iff_of_arrive (h : (story.arrive limit s).value = .ok s') (hs : s.Unscored)
    (hqueue : s.queue = []) (hfinished : s'.isFinished = true) :
    s'.inFeedback = true ↔ s.returnNode ≠ none ∧ ¬ story.PassesFired s := by
  obtain ⟨stop, m, hmoves, hrests⟩ := exists_rests_of_arrive h
  have hunscored : m.Unscored := unscored_of_moves hmoves hs
  have hqueue' : m.queue = [] := (queue_of_moves hmoves).trans hqueue
  obtain ⟨_, _, _, hscore⟩ := story.exists_value_score_eq m
  rw [hrests.eq_score_of_isFinished hunscored hfinished, hscore]
  simp only [Playthrough.inFeedback, hqueue', List.isEmpty_nil, Bool.not_true, Bool.false_or,
    Option.isSome_iff_ne_none, ne_eq, returnNode_eq_none_iff_of_rests hmoves hrests, not_or]

/-- An action that ends the game leaves an excursion pending exactly if one was pending before, the
node led on by itself, and no fan-out router that has fired is passed on the way. -/
theorem exists_setsOut_of_isFinished
    (h : (story.act limit s choice source).value.result = .ok s') (hs : s.Unscored)
    (hfinished : s'.isFinished = true) :
    ∃ t, story.SetsOut s choice source t ∧
      (s'.inFeedback = true ↔
        s.returnNode ≠ none ∧ story.LeadsOn s ∧ ¬ story.PassesFired t) := by
  rcases story.setsOut_or_stays limit s choice source with
    ⟨t, hsets, hresult⟩ | hresult | ⟨next, rest, _, hresult⟩
  · rw [hresult] at h
    refine ⟨t, hsets, ?_⟩
    rw [inFeedback_iff_of_arrive h (hsets.unscored hs) hsets.queue_eq_nil hfinished, ne_eq,
      hsets.returnNode_eq_none_iff, not_or, Classical.not_not, and_assoc]
  · rw [hresult] at h
    cases h
    simp [Playthrough.isFinished, hs.scorecard] at hfinished
  · rw [hresult] at h
    cases h
    simp [Playthrough.isFinished, hs.scorecard] at hfinished

end Story
end BranchingStory
