import BranchingStory.Proofs.Lint.Playable
import Mathlib.Logic.Relation

/-!
# Nodes out of reach

A node is in reach of the start if ways on lead to it from node to node.  The search of the graph
takes ids from a queue, leaves out those that are not nodes or have been seen, and appends the
successors of the others.  It finds exactly the nodes in reach: the queue never holds an id that is
out of reach, and a way on from a node that has been seen leads to one that has been seen or is
queued.

Main results:

- `Story.mem_reachable_iff`: the search finds exactly the nodes in reach.
- `Story.unreachable_mem_warnings_iff`: a report warns of exactly the nodes that are out of reach.
-/

namespace BranchingStory

namespace Story

variable {story : Story} {start id target : String} {node : Node} {queue seen : List String}

/-! ## Paths -/

/-- There is a way on from one id, which is a node, to another id. -/
def LeadsTo (story : Story) (id target : String) : Prop :=
  ∃ node, story.node? id = some node ∧ target ∈ node.successors

/-- Ways on lead from node to node, from one id to another. -/
def PathTo (story : Story) : String → String → Prop :=
  Relation.ReflTransGen story.LeadsTo

/-- The ways on from an id are those of its node. -/
theorem mem_successors_iff : target ∈ story.successors id ↔ story.LeadsTo id target := by
  unfold successors LeadsTo
  cases story.node? id <;> simp

/-- The ids with a node are the keys of the table of nodes. -/
theorem mem_keys_nodes_iff : id ∈ story.nodes.keys ↔ story.Has id :=
  Table.mem_keys_iff.trans Option.isSome_iff_exists

/-! ## The search -/

/-- A node that the search leaves out has been seen. -/
theorem mem_of_not_new (h : ¬ (id ∈ story.nodes.keys ∧ id ∉ seen)) (hnode : story.Has id) :
    id ∈ seen :=
  Classical.byContradiction fun hunseen => h ⟨mem_keys_nodes_iff.mpr hnode, hunseen⟩

/-- Everything that the search finds was seen before or is a node in reach of the queue. -/
theorem seen_or_path_of_mem_explore (h : id ∈ story.explore queue seen) :
    id ∈ seen ∨ story.Has id ∧ ∃ first ∈ queue, story.PathTo first id := by
  induction queue, seen using explore.induct story with
  | case1 seen =>
      rw [explore] at h
      exact Or.inl h
  | case2 seen front rest hfront ih =>
      rw [explore, if_pos hfront] at h
      rcases ih h with hseen | ⟨hnode, first, hfirst, hpath⟩
      · rcases List.mem_cons.mp hseen with rfl | hseen
        · exact Or.inr ⟨mem_keys_nodes_iff.mp hfront.1, id, List.mem_cons_self, .refl⟩
        · exact Or.inl hseen
      · refine Or.inr ⟨hnode, ?_⟩
        rcases List.mem_append.mp hfirst with hrest | hnext
        · exact ⟨first, List.mem_cons_of_mem _ hrest, hpath⟩
        · exact ⟨front, List.mem_cons_self, hpath.head (mem_successors_iff.mp hnext)⟩
  | case3 seen front rest hfront ih =>
      rw [explore, if_neg hfront] at h
      rcases ih h with hseen | ⟨hnode, first, hrest, hpath⟩
      · exact Or.inl hseen
      · exact Or.inr ⟨hnode, first, List.mem_cons_of_mem _ hrest, hpath⟩

/-- What has been seen stays seen. -/
theorem mem_explore_of_mem_seen (h : id ∈ seen) : id ∈ story.explore queue seen := by
  induction queue, seen using explore.induct story with
  | case1 seen =>
      rw [explore]
      exact h
  | case2 seen front rest hfront ih =>
      rw [explore, if_pos hfront]
      exact ih (List.mem_cons_of_mem _ h)
  | case3 seen front rest hfront ih =>
      rw [explore, if_neg hfront]
      exact ih h

/-- A node that is queued is found. -/
theorem mem_explore_of_mem_queue (hnode : story.Has id) (h : id ∈ queue) :
    id ∈ story.explore queue seen := by
  induction queue, seen using explore.induct story with
  | case1 seen => exact absurd h List.not_mem_nil
  | case2 seen front rest hfront ih =>
      rw [explore, if_pos hfront]
      rcases List.mem_cons.mp h with rfl | hrest
      · exact mem_explore_of_mem_seen List.mem_cons_self
      · exact ih (List.mem_append_left _ hrest)
  | case3 seen front rest hfront ih =>
      rw [explore, if_neg hfront]
      rcases List.mem_cons.mp h with rfl | hrest
      · exact mem_explore_of_mem_seen (mem_of_not_new hfront hnode)
      · exact ih hrest

/-- The search is closed under ways on to nodes, if those from what was seen before lead to what was
seen or is queued. -/
theorem mem_explore_of_leadsTo
    (hclosed : ∀ {id target}, id ∈ seen → story.LeadsTo id target → story.Has target →
      target ∈ seen ∨ target ∈ queue)
    (h : id ∈ story.explore queue seen) (hleads : story.LeadsTo id target)
    (htarget : story.Has target) : target ∈ story.explore queue seen := by
  induction queue, seen using explore.induct story with
  | case1 seen =>
      rw [explore] at h ⊢
      exact (hclosed h hleads htarget).resolve_right List.not_mem_nil
  | case2 seen front rest hfront ih =>
      rw [explore, if_pos hfront] at h ⊢
      refine ih (fun {id target} hid hleads htarget => ?_) h
      rcases List.mem_cons.mp hid with rfl | hid
      · exact Or.inr (List.mem_append_right _ (mem_successors_iff.mpr hleads))
      · rcases hclosed hid hleads htarget with hseen | hqueue
        · exact Or.inl (List.mem_cons_of_mem _ hseen)
        · rcases List.mem_cons.mp hqueue with rfl | hrest
          · exact Or.inl List.mem_cons_self
          · exact Or.inr (List.mem_append_left _ hrest)
  | case3 seen front rest hfront ih =>
      rw [explore, if_neg hfront] at h ⊢
      refine ih (fun {id target} hid hleads htarget => ?_) h
      rcases hclosed hid hleads htarget with hseen | hqueue
      · exact Or.inl hseen
      · rcases List.mem_cons.mp hqueue with rfl | hrest
        · exact Or.inl (mem_of_not_new hfront htarget)
        · exact Or.inr hrest

/-- The search finds exactly the nodes in reach. -/
theorem mem_reachable_iff :
    id ∈ story.reachable start ↔ story.Has id ∧ story.PathTo start id := by
  constructor
  · intro h
    rcases seen_or_path_of_mem_explore h with hseen | ⟨hnode, first, hfirst, hpath⟩
    · exact absurd hseen List.not_mem_nil
    · rw [List.mem_singleton.mp hfirst] at hpath
      exact ⟨hnode, hpath⟩
  · rintro ⟨hnode, hpath⟩
    induction hpath with
    | refl => exact mem_explore_of_mem_queue hnode List.mem_cons_self
    | tail _ hleads ih =>
        have hlast := ih ⟨_, hleads.choose_spec.1⟩
        exact mem_explore_of_leadsTo (fun hid => absurd hid List.not_mem_nil) hlast hleads hnode

/-! ## The findings -/

section Checks

variable {place : Place} {other : String}

@[simp]
theorem unreachable_not_mem_checkCondition {condition : String} :
    .unreachable id start ∉ checkCondition place condition := by
  unfold checkCondition
  split <;> simp

@[simp]
theorem unreachable_not_mem_checkAdjustment {adjustment : Adjustment} :
    .unreachable id start ∉ checkAdjustment place adjustment := by
  simp [checkAdjustment]

@[simp]
theorem unreachable_not_mem_checkBranchCondition {branch : Branch} :
    .unreachable id start ∉ checkBranchCondition place branch := by
  unfold checkBranchCondition
  split <;> simp

/-- A part that may be absent is checked like one that is there. -/
@[simp]
theorem unreachable_not_mem_getD_map {α : Type} {part : Option α} {check : α → List Finding}
    (h : ∀ a, .unreachable id start ∉ check a) :
    .unreachable id start ∉ (part.map check).getD [] := by
  cases part <;> simp [h]

@[simp]
theorem unreachable_not_mem_checkChances {chances : List ChanceEntry} :
    .unreachable id start ∉ checkChances place chances := by
  simp [checkChances]

@[simp]
theorem unreachable_not_mem_checkChoice {choice : Choice} :
    .unreachable id start ∉ checkChoice other choice := by
  simp [checkChoice]

/-- No check of a node finds that another one is out of reach. -/
theorem unreachable_not_mem_checkNode :
    .unreachable id start ∉ story.checkNode other node := by
  have hsuccessors : .unreachable id start ∉ story.checkSuccessors other node := by
    simp only [checkSuccessors, List.mem_flatMap, not_exists, not_and]
    intro target _
    split
    · simp
    · split <;> simp
  have heffects : .unreachable id start ∉ checkEffects other node := by
    cases node <;> simp [checkEffects]
  have hshape : .unreachable id start ∉ story.checkShape other node := by
    cases node <;> simp [checkShape]
  simp [checkNode, hsuccessors, heffects, hshape]

/-- No check of a rubric rule finds that a node is out of reach. -/
theorem unreachable_not_mem_checkRubricRule {rule : RubricRule} :
    .unreachable id start ∉ checkRubricRule rule := by
  unfold checkRubricRule
  split <;> simp

/-- Only the search of the graph finds nodes out of reach. -/
theorem unreachable_mem_lint_iff_mem_checkReachable :
    .unreachable id other ∈ story.lint start ↔
      .unreachable id other ∈ story.checkReachable start := by
  simp [lint, checkStart, checkOutcomes, checkStartAdjustments, unreachable_not_mem_checkNode,
    unreachable_not_mem_checkRubricRule]

end Checks

/-- The findings about reach are exact. -/
theorem unreachable_mem_lint_iff (hstart : story.Has start) {other : String} :
    .unreachable id other ∈ story.lint start ↔
      other = start ∧ story.Has id ∧ ¬ story.PathTo start id := by
  obtain ⟨first, hfirst⟩ := hstart
  rw [unreachable_mem_lint_iff_mem_checkReachable]
  simp only [checkReachable, hfirst, Option.isNone_some, Bool.false_eq_true, if_false,
    List.mem_map, List.mem_filter, mem_keys_nodes_iff, Finding.unreachable.injEq]
  constructor
  · rintro ⟨_, ⟨hnode, hunseen⟩, rfl, rfl⟩
    refine ⟨rfl, hnode, fun hpath => ?_⟩
    simp [mem_reachable_iff.mpr ⟨hnode, hpath⟩] at hunseen
  · rintro ⟨rfl, hnode, hpath⟩
    have hunseen : id ∉ story.reachable other := fun hmem => hpath (mem_reachable_iff.mp hmem).2
    exact ⟨id, ⟨hnode, by simp [hunseen]⟩, rfl, rfl⟩

end Story

/-! ## The warnings -/

/-- No message about a place begins like the one about a node. -/
theorem Place.take_text_append_ne (place : Place) (rest : String) :
    (place.text ++ rest).toList.take 2 ≠ ['N', 'o'] := by
  unfold text
  cases place <;> simp

/-- The wording tells warnings about reach from all others: no other begins with `No`. -/
theorem Finding.exists_unreachable_of_take_message {finding : Finding}
    (hwarning : finding.isError = false) (h : finding.message.toList.take 2 = ['N', 'o']) :
    ∃ node start, finding = .unreachable node start := by
  unfold message at h
  cases finding with
  | unreachable node start => exact ⟨node, start, rfl⟩
  | missingStart _ | emptySuccessor _ | unknownSuccessor _ _ | badCondition _ _ _
  | routerCycle _ => cases hwarning
  | noMatcher place | unknownStat place _ | unknownGate place _ | noCondition place _
  | restlessFeedback place _ =>
      simp only [String.append_assoc] at h
      exact absurd h (place.take_text_append_ne _)
  | noOutcomeRules | noSuccessor _ _ | noChoices _ | noDefault _ => simp at h

/-- A report warns of exactly the nodes that are out of reach. -/
theorem Story.unreachable_mem_warnings_iff {story : Story} {start id : String}
    (hstart : story.Has start) :
    "Node '" ++ id ++ "' is unreachable from '" ++ start ++ "'"
        ∈ (story.lintReport start).warnings ↔
      story.Has id ∧ ¬ story.PathTo start id := by
  constructor
  · intro h
    obtain ⟨finding, hfinding, hmessage⟩ := List.mem_map.mp h
    obtain ⟨hmem, hwarning⟩ := List.mem_filter.mp hfinding
    have hfirst : finding.message.toList.take 2 = ['N', 'o'] := by
      rw [hmessage]
      simp
    obtain ⟨node, other, rfl⟩ :=
      Finding.exists_unreachable_of_take_message (by simpa using hwarning) hfirst
    obtain ⟨rfl, hnode, hpath⟩ := (unreachable_mem_lint_iff hstart).mp hmem
    unfold Finding.message at hmessage
    have hid : node = id := by simpa using hmessage
    exact hid ▸ ⟨hnode, hpath⟩
  · rintro ⟨hnode, hpath⟩
    exact mem_warnings_of_mem_lint ((unreachable_mem_lint_iff hstart).mpr ⟨rfl, hnode, hpath⟩) rfl

end BranchingStory
