import BranchingStory.Proofs.Lint.Playable
import BranchingStory.Proofs.Play.Turns

/-!
# Feedback excursions

What a playthrough remembers of a feedback excursion are the pending stops and the node where the
story goes on after them.  A fan-out router that has fired accounts for both: it goes on at that
node, and the stops from where the player is to the last pending one are branches of it in authored
order.

No stop is pending while the story moves on by itself, so a fan-out router that fires displaces no
stop of another one.  But a stop is visited without moving on from it.  It is therefore the one
place where a playthrough can stand at an outcome that is not scored, or at a router that has a way
on.

Main results:

- `Story.feedbackAccounted_of_act`: every action keeps the account.
- `Story.isSettled_or_atStop_of_act`: after every action the playthrough has settled, or it is at a
  stop.
-/

namespace BranchingStory
namespace Story

variable {story : Story} {limit : Nat} {s s' t m : Playthrough} {stop : Stop} {next resume : String}
  {rest : List String} {branches : List Branch} {choice : Option Choice} {source : Source}

/-! ## Accounts of an excursion -/

/-- A fan-out router with these branches, after which the story goes on at `resume`, has fired. -/
def HasFired (story : Story) (s : Playthrough) (branches : List Branch) (resume : String) : Prop :=
  ∃ id ∈ s.marks, story.node? id = some (.fanout branches resume)

/-- Fan-out routers that have fired account for what the playthrough remembers of an excursion. -/
structure FeedbackAccounted (story : Story) (s : Playthrough) : Prop where
  returnNode : ∀ resume, s.returnNode = some resume →
    ∃ branches, story.HasFired s branches resume
  queue : s.queue ≠ [] → ∃ branches resume, s.returnNode = some resume ∧
    story.HasFired s branches resume ∧ (s.node :: s.queue).Sublist (branches.map Branch.next)

/-- The playthrough is at a stop of a fan-out router that has fired, and the story is still to go on
after the excursion. -/
def AtStop (story : Story) (s : Playthrough) : Prop :=
  ∃ branches resume, s.returnNode = some resume ∧ story.HasFired s branches resume ∧
    s.node ∈ branches.map Branch.next

/-- A playthrough that goes to the next pending stop is at a stop. -/
theorem FeedbackAccounted.atStop_next (hs : story.FeedbackAccounted s)
    (hqueue : s.queue = next :: rest) : story.AtStop { s with node := next, queue := rest } := by
  have hpending : s.queue ≠ [] := by simp [hqueue]
  obtain ⟨branches, resume, hreturn, hfired, hstops⟩ := hs.queue hpending
  refine ⟨branches, resume, hreturn, hfired, ?_⟩
  apply hstops.subset
  simp [hqueue]

/-- A playthrough with pending stops is at a stop itself. -/
theorem FeedbackAccounted.atStop (hs : story.FeedbackAccounted s) (hqueue : s.queue ≠ []) :
    story.AtStop s := by
  obtain ⟨branches, resume, hreturn, hfired, hstops⟩ := hs.queue hqueue
  exact ⟨branches, resume, hreturn, hfired, hstops.subset List.mem_cons_self⟩

/-- The account holds for the next pending stop as well. -/
theorem FeedbackAccounted.nextStop (hs : story.FeedbackAccounted s)
    (hqueue : s.queue = next :: rest) :
    story.FeedbackAccounted { s with node := next, queue := rest } where
  returnNode := hs.returnNode
  queue := by
    intro _
    have hpending : s.queue ≠ [] := by simp [hqueue]
    obtain ⟨branches, resume, hreturn, hfired, hstops⟩ := hs.queue hpending
    rw [hqueue] at hstops
    have hrest : (next :: rest).Sublist (branches.map Branch.next) :=
      (List.sublist_cons_self s.node _).trans hstops
    exact ⟨branches, resume, hreturn, hfired, hrest⟩

/-! ## Moving on -/

/-- Pending stops are not touched by moving on. -/
theorem Moves.queue (h : story.Moves s s') : s'.queue = s.queue := by
  cases h <;> rfl

/-- Moving on leaves the pending stops as they are. -/
theorem queue_of_moves (h : Relation.ReflTransGen story.Moves s m) : m.queue = s.queue := by
  induction h with
  | refl => rfl
  | tail _ hmove ih => exact hmove.queue.trans ih

/-- Without pending stops, the account is kept by moving on. -/
theorem Moves.feedbackAccounted (h : story.Moves s s')
    (hs : story.FeedbackAccounted s ∧ s.queue = []) :
    story.FeedbackAccounted s' ∧ s'.queue = [] := by
  obtain ⟨haccount, hqueue⟩ := hs
  have hqueue' : s'.queue = [] := h.queue.trans hqueue
  refine ⟨⟨?_, fun hpending => absurd hqueue' hpending⟩, hqueue'⟩
  intro resume hreturn
  cases h with
  | branch _ _ => exact haccount.returnNode resume hreturn
  | default _ _ => exact haccount.returnNode resume hreturn
  | passed _ _ => cases hreturn
  | unmatched _ _ _ => exact haccount.returnNode resume hreturn

/-- A fan-out router that fires accounts for the stops it sends the player to. -/
theorem Rests.feedbackAccounted (h : story.Rests m stop s') (hm : story.FeedbackAccounted m) :
    story.FeedbackAccounted s' := by
  cases h with
  | missing _ => exact hm
  | interactive _ _ => exact hm
  | outcome _ =>
      obtain ⟨_, _, _, hscore⟩ := story.exists_value_score_eq m
      rw [hscore]
      exact ⟨hm.returnNode, hm.queue⟩
  | stalled _ _ => exact hm
  | @fired branches others resume first hnode _ htaken =>
      have hmark : m.node ∈ m.marks.insert m.node := Names.mem_insert.mpr (Or.inl rfl)
      have hstops : (first :: others).Sublist branches := by
        rw [← htaken]
        exact List.filter_sublist
      constructor
      · rintro _ ⟨⟩
        exact ⟨branches, m.node, hmark, hnode⟩
      · intro _
        exact ⟨branches, resume, rfl, ⟨m.node, hmark, hnode⟩, hstops.map Branch.next⟩

/-- Where the story arrives there is an account, if there was one and no stop was pending. -/
theorem feedbackAccounted_of_arrive (h : (story.arrive limit s).value = .ok s')
    (hs : story.FeedbackAccounted s) (hqueue : s.queue = []) : story.FeedbackAccounted s' := by
  obtain ⟨stop, m, hm, hrests⟩ := exists_rests_of_arrive_of_invariant
    (P := fun t => story.FeedbackAccounted t ∧ t.queue = []) Moves.feedbackAccounted h ⟨hs, hqueue⟩
  exact hrests.feedbackAccounted hm.1

/-! ## Actions -/

/-- Where an action sets out, what is left of an excursion is still accounted for. -/
theorem SetsOut.feedbackAccounted (h : story.SetsOut s choice source t)
    (hs : story.FeedbackAccounted s) : story.FeedbackAccounted t := by
  have hqueue : t.queue = [] := h.queue_eq_nil
  refine ⟨?_, fun hpending => absurd hqueue hpending⟩
  intro resume hreturn
  cases h with
  | resumed _ _ _ => cases hreturn
  | continued _ _ _ => exact hs.returnNode resume hreturn
  | leftFeedback _ _ _ _ => cases hreturn
  | chose _ _ _ _ => cases hreturn

/-- Every action keeps the account of an excursion. -/
theorem feedbackAccounted_of_act (h : (story.act limit s choice source).value.result = .ok s')
    (hs : story.FeedbackAccounted s) : story.FeedbackAccounted s' := by
  rcases story.setsOut_or_stays limit s choice source with
    ⟨t, hsets, hresult⟩ | hresult | ⟨next, rest, hqueue, hresult⟩
  · rw [hresult] at h
    exact feedbackAccounted_of_arrive h (hsets.feedbackAccounted hs) hsets.queue_eq_nil
  · rw [hresult] at h
    cases h
    exact hs
  · rw [hresult] at h
    cases h
    exact hs.nextStop hqueue

/-! ## Settled playthroughs -/

/-- The story has nothing more to do by itself: an outcome is scored, and a router is a plain one
that has no way on. -/
structure IsSettled (story : Story) (s : Playthrough) : Prop where
  outcome : ∀ text, story.node? s.node = some (.outcome text) → s.isFinished = true
  router : ∀ node, story.node? s.node = some node → node.isRouting = true →
    ∃ branches, node = .router branches none ∧ ∀ branch ∈ branches, (branch.isTaken s).value = false

/-- A playthrough has settled wherever the player can act, and where there is no node. -/
theorem isSettled_of_not_isRestless (h : story.isRestless s.node = false) : story.IsSettled s := by
  have hwaits : ∀ node, story.node? s.node = some node → node.isInteractive = true := by
    intro node hnode
    simpa [isRestless, hnode] using h
  constructor
  · intro text hnode
    cases hwaits _ hnode
  · intro node hnode hrouting
    have := hwaits node hnode
    cases node <;> simp_all [Node.isInteractive, Node.isRouting]

/-- A playthrough that has not settled is at a router or an outcome. -/
theorem isRestless_of_not_isSettled (h : ¬ story.IsSettled s) :
    story.isRestless s.node = true := by
  cases hwaits : story.isRestless s.node with
  | true => rfl
  | false => exact absurd (isSettled_of_not_isRestless hwaits) h

/-- The lint warns of a stop that is a router or an outcome. -/
theorem warns_of_isRestless {id : String} (hnode : story.node? id = some (.fanout branches resume))
    (hstop : s.node ∈ branches.map Branch.next) (hrestless : story.isRestless s.node = true)
    (start : String) :
    "Multi-router '" ++ id ++ "'" ++ " sends feedback to non-interactive node '" ++ s.node ++ "'"
      ∈ (story.lintReport start).warnings := by
  obtain ⟨branch, hbranch, hnext⟩ := List.mem_map.mp hstop
  rw [← hnext] at hrestless ⊢
  have hfinding : .restlessFeedback (.fanout id) branch.next
      ∈ story.checkNode id (.fanout branches resume) :=
    restlessFeedback_mem_checkNode hbranch hrestless
  exact mem_warnings_of_mem_lint (mem_lint_of_mem_checkNode hnode hfinding) rfl

/-- A fan-out router that fires leaves the playthrough at one of its stops. -/
theorem Rests.atStop (h : story.Rests m .feedback s') : story.AtStop s' := by
  cases h with
  | @fired branches others resume first hnode _ htaken =>
      have hfirst : first ∈ branches.filter (fun b => (b.isTaken m).value) := by
        rw [htaken]
        exact List.mem_cons_self
      have hmark : m.node ∈ m.marks.insert m.node := Names.mem_insert.mpr (Or.inl rfl)
      exact ⟨branches, resume, rfl, ⟨m.node, hmark, hnode⟩,
        List.mem_map_of_mem (List.mem_filter.mp hfirst).1⟩

/-- A playthrough that comes to rest has settled, unless a fan-out router has just fired. -/
theorem Rests.isSettled_or_atStop (h : story.Rests m stop s') :
    story.IsSettled s' ∨ story.AtStop s' := by
  cases h with
  | missing hnode =>
      refine Or.inl (isSettled_of_not_isRestless ?_)
      simp [isRestless, hnode]
  | interactive hnode hwaits =>
      refine Or.inl (isSettled_of_not_isRestless ?_)
      simp [isRestless, hnode, hwaits]
  | outcome hnode =>
      obtain ⟨_, _, _, hscore⟩ := story.exists_value_score_eq m
      rw [hscore]
      refine Or.inl ⟨fun _ _ => rfl, ?_⟩
      intro node hother hrouting
      rw [hnode] at hother
      cases hother
      cases hrouting
  | @stalled branches hnode htaken =>
      refine Or.inl ⟨?_, ?_⟩
      · intro text hother
        rw [hnode] at hother
        cases hother
      · intro node hother _
        rw [hnode] at hother
        cases hother
        refine ⟨branches, rfl, ?_⟩
        intro branch hbranch
        simpa using List.find?_eq_none.mp htaken branch hbranch
  | fired hnode hmark htaken => exact Or.inr (Rests.fired hnode hmark htaken).atStop

/-- Where the story arrives it has settled, or it is at the first stop. -/
theorem isSettled_or_atStop_of_arrive (h : (story.arrive limit s).value = .ok s') :
    story.IsSettled s' ∨ story.AtStop s' := by
  obtain ⟨stop, m, _, hrests⟩ := exists_rests_of_arrive h
  exact hrests.isSettled_or_atStop

/-- After every action the playthrough has settled, or it is at a stop. -/
theorem isSettled_or_atStop_of_act (h : (story.act limit s choice source).value.result = .ok s')
    (haccount : story.FeedbackAccounted s) (hs : story.IsSettled s ∨ story.AtStop s) :
    story.IsSettled s' ∨ story.AtStop s' := by
  rcases story.setsOut_or_stays limit s choice source with
    ⟨t, _, hresult⟩ | hresult | ⟨next, rest, hqueue, hresult⟩
  · rw [hresult] at h
    exact isSettled_or_atStop_of_arrive h
  · rw [hresult] at h
    cases h
    exact hs
  · rw [hresult] at h
    cases h
    exact Or.inr (haccount.atStop_next hqueue)

end Story
end BranchingStory
