import BranchingStory.Proofs.Routers.Cycles

/-!
# Reported cycles

The search for cycles is bounded by fuel.  `Visits` is the same search without the bound, as a
relation that holds of a search that comes to its end.  The fuel is never used up, so the two agree:
the search without a bound ends, and in one way only.

Main results:

- `Story.visits_iff`: a search that comes to its end ends in what the bounded search finds.
- `Story.isRouterCycle_of_mem_searchAll`: what the search finds is a cycle of routers.
- `Story.routerCycles_correct`: the reported cycles are genuine and distinct, and never all missed.
-/

namespace BranchingStory

/-- A cycle that is known is not noted again. -/
theorem CycleSearch.nodup_record {search : CycleSearch} (h : search.cycles.Nodup)
    (cycle : List String) : (search.record cycle).cycles.Nodup := by
  unfold CycleSearch.record
  by_cases hmem : rotateToLeast cycle ∈ search.cycles
  · simp only [if_pos hmem]
    exact h
  · simp only [if_neg hmem]
    exact List.nodup_append_comm.mp (List.nodup_cons.mpr ⟨hmem, h⟩)

namespace Story

variable {story : Story} {path ids cycle other : List String} {id next : String}
  {before after found : CycleSearch} {fuel : Nat}

/-! ## Ways on without the player -/

/-- A way on that the story can take without the player: a branch or the default of a router, or the
continuation of a fan-out router.  The conditions of the branches are not asked for. -/
inductive AutoEdge (story : Story) : String → String → Prop
  | branch {id : String} {branches : List Branch} {fallback : Option String} {branch : Branch}
      (hnode : story.node? id = some (.router branches fallback)) (hbranch : branch ∈ branches) :
      AutoEdge story id branch.next
  | fallback {id next : String} {branches : List Branch}
      (hnode : story.node? id = some (.router branches (some next))) : AutoEdge story id next
  | resume {id next : String} {branches : List Branch}
      (hnode : story.node? id = some (.fanout branches next)) : AutoEdge story id next

/-- The edges of the graph are the ways that the story takes by itself. -/
theorem autoEdge_iff : story.AutoEdge id next ↔ next ∈ story.autoSuccessors id := by
  unfold autoSuccessors
  constructor
  · intro h
    cases h with
    | branch hnode hbranch =>
        rw [hnode]
        exact List.mem_append_left _ (List.mem_map_of_mem hbranch)
    | fallback hnode =>
        rw [hnode]
        exact List.mem_append_right _ (by simp)
    | resume hnode =>
        rw [hnode]
        exact List.mem_singleton_self _
  · intro h
    cases hnode : story.node? id with
    | none => simp [hnode] at h
    | some node =>
        rw [hnode] at h
        cases node with
        | router branches fallback =>
            rcases List.mem_append.mp h with h | h
            · obtain ⟨branch, hbranch, rfl⟩ := List.mem_map.mp h
              exact AutoEdge.branch hnode hbranch
            · rw [Option.mem_toList] at h
              exact AutoEdge.fallback (h ▸ hnode)
        | fanout branches resume =>
            rw [List.mem_singleton.mp h]
            exact AutoEdge.resume hnode
        | narrative _ _ _ => exact absurd h List.not_mem_nil
        | decision _ _ => exact absurd h List.not_mem_nil
        | outcome _ => exact absurd h List.not_mem_nil

/-- Ways on that end at a router have passed routers only. -/
theorem leads_of_reflTransGen (h : Relation.ReflTransGen story.AutoEdge next id)
    (hroutes : story.routesAt id = true) : story.Leads [] next id := by
  induction h using Relation.ReflTransGen.head_induction_on with
  | refl => exact Leads.refl List.not_mem_nil hroutes
  | head hedge _ ih => exact Leads.step List.not_mem_nil (autoEdge_iff.mp hedge) ih

/-! ## The search without a bound -/

/-- From a path, a search visits a list of ids one after the other and comes to its end. -/
inductive Visits (story : Story) :
    List String → CycleSearch → List String → CycleSearch → Prop
  | nil {path : List String} {search : CycleSearch} : Visits story path search [] search
  /-- A router that was left is passed over. -/
  | done {path ids : List String} {id : String} {before after : CycleSearch}
      (hdone : id ∈ before.done) (h : Visits story path before ids after) :
      Visits story path before (id :: ids) after
  /-- An id that is on the path closes a cycle. -/
  | close {path ids : List String} {id : String} {before after : CycleSearch}
      (hdone : id ∉ before.done) (hpath : id ∈ path)
      (h : Visits story path (before.record (path.dropWhile (· != id))) ids after) :
      Visits story path before (id :: ids) after
  /-- Any other router is searched, and left after that. -/
  | enter {path ids : List String} {id : String} {before found after : CycleSearch}
      (hdone : id ∉ before.done) (hpath : id ∉ path) (hroutes : story.routesAt id = true)
      (hfound : Visits story (path ++ [id]) before (story.autoSuccessors id) found)
      (h : Visits story path { found with done := id :: found.done } ids after) :
      Visits story path before (id :: ids) after
  /-- What is no router is passed over. -/
  | pass {path ids : List String} {id : String} {before after : CycleSearch}
      (hdone : id ∉ before.done) (hpath : id ∉ path) (hroutes : story.routesAt id ≠ true)
      (h : Visits story path before ids after) :
      Visits story path before (id :: ids) after

/-! ### The bounded search -/

/-- A router that has been left is not entered again. -/
theorem visit_of_mem_done (hdone : id ∈ before.done) : story.visit fuel path before id = before :=
  if_pos hdone

/-- A way back into the current path closes a cycle. -/
theorem visit_of_mem_path (hdone : id ∉ before.done) (hpath : id ∈ path) :
    story.visit fuel path before id = before.record (path.dropWhile (· != id)) :=
  (if_neg hdone).trans (if_pos hpath)

/-- A new router is entered, and left when all of its ways on have been tried. -/
theorem visit_of_routesAt (hdone : id ∉ before.done) (hpath : id ∉ path)
    (hroutes : story.routesAt id = true)
    (hfound : found = (story.autoSuccessors id).foldl (story.visit fuel (path ++ [id])) before) :
    story.visit (fuel + 1) path before id = { found with done := id :: found.done } := by
  rw [hfound]
  exact (if_neg hdone).trans ((if_neg hpath).trans (if_pos hroutes))

/-- What is no router is passed over. -/
theorem visit_of_not_routesAt (hdone : id ∉ before.done) (hpath : id ∉ path)
    (hroutes : story.routesAt id ≠ true) : story.visit fuel path before id = before :=
  (if_neg hdone).trans ((if_neg hpath).trans (if_neg hroutes))

/-- With fuel for every router off the path, the bounded search is one that comes to its end.  The
induction is on the fuel, and inside it on the list of ids. -/
theorem visits_foldl_visit (htrail : story.Trail path)
    (hfuel : story.routerIds.length < fuel + path.length) :
    story.Visits path before ids (ids.foldl (story.visit fuel path) before) := by
  induction fuel generalizing path ids before with
  | zero =>
      have := htrail.length_le
      omega
  | succ fuel ih =>
      induction ids generalizing before with
      | nil => exact Visits.nil
      | cons id ids ihids =>
          rw [List.foldl_cons]
          by_cases hdone : id ∈ before.done
          · rw [visit_of_mem_done hdone]
            exact Visits.done hdone ihids
          by_cases hpath : id ∈ path
          · rw [visit_of_mem_path hdone hpath]
            exact Visits.close hdone hpath ihids
          by_cases hroutes : story.routesAt id = true
          · rw [visit_of_routesAt hdone hpath hroutes rfl]
            refine Visits.enter hdone hpath hroutes (ih (htrail.snoc hpath hroutes) ?_) ihids
            simp only [List.length_append, List.length_singleton]
            omega
          · rw [visit_of_not_routesAt hdone hpath hroutes]
            exact Visits.pass hdone hpath hroutes ihids

namespace Visits

/-- A search that comes to its end ends in what the bounded search finds, if the fuel is enough for
every router off the path. -/
theorem eq_foldl_visit (h : story.Visits path before ids after) (htrail : story.Trail path)
    (hfuel : story.routerIds.length < fuel + path.length) :
    after = ids.foldl (story.visit fuel path) before := by
  induction h generalizing fuel with
  | nil => rfl
  | done hdone _ ih =>
      rw [List.foldl_cons, visit_of_mem_done hdone]
      exact ih htrail hfuel
  | close hdone hpath _ ih =>
      rw [List.foldl_cons, visit_of_mem_path hdone hpath]
      exact ih htrail hfuel
  | @enter path _ id _ _ _ hdone hpath hroutes _ _ ihfound ih =>
      have hsnoc := htrail.snoc hpath hroutes
      have hlength := hsnoc.length_le
      have hsplit : (path ++ [id]).length = path.length + 1 := by simp
      obtain ⟨fuel, rfl⟩ := Nat.exists_eq_succ_of_ne_zero (show fuel ≠ 0 by omega)
      rw [List.foldl_cons, visit_of_routesAt hdone hpath hroutes (ihfound hsnoc (by omega))]
      exact ih htrail hfuel
  | pass hdone hpath hroutes _ ih =>
      rw [List.foldl_cons, visit_of_not_routesAt hdone hpath hroutes]
      exact ih htrail hfuel

/-- No search finds a cycle twice. -/
theorem nodup_cycles (h : story.Visits path before ids after) (hbefore : before.cycles.Nodup) :
    after.cycles.Nodup := by
  induction h with
  | nil => exact hbefore
  | done _ _ ih => exact ih hbefore
  | close _ _ _ ih => exact ih (CycleSearch.nodup_record hbefore _)
  | enter _ _ _ _ _ ihfound ih => exact ih (ihfound hbefore)
  | pass _ _ _ _ ih => exact ih hbefore

end Visits

/-- The search from all routers ends, and in one way only: in what the bounded search finds. -/
theorem visits_iff :
    story.Visits [] ⟨[], []⟩ story.routerIds after ↔ after = story.searchAll := by
  have hfuel : story.routerIds.length < story.routerIds.length + 1 + ([] : List String).length := by
    simp
  rw [searchAll_eq]
  constructor
  · intro h
    exact h.eq_foldl_visit Trail.nil hfuel
  · rintro rfl
    exact visits_foldl_visit Trail.nil hfuel

/-- No cycle is reported twice. -/
theorem nodup_routerCycles : story.routerCycles.Nodup :=
  ((visits_iff.mpr rfl).nodup_cycles List.nodup_nil).map closeCycle_injective

/-! ## What the search finds -/

/-- A first path begins at one of its starts, and each of its ids has a way on to the next. -/
theorem FirstPath.isChain {target : String} {avoid starts : List String}
    (h : story.FirstPath target avoid starts path) :
    (∃ first rest, path = first :: rest ∧ first ∈ starts) ∧
      path.IsChain fun id next => next ∈ story.autoSuccessors id := by
  induction h with
  | arrive _ _ => exact ⟨⟨_, _, rfl, List.mem_cons_self⟩, List.isChain_singleton _⟩
  | enter _ _ _ _ ih =>
      obtain ⟨⟨first, rest, rfl, hfirst⟩, hchain⟩ := ih
      exact ⟨⟨_, _, rfl, List.mem_cons_self⟩, List.isChain_cons_cons.mpr ⟨hfirst, hchain⟩⟩
  | skip _ _ ih =>
      obtain ⟨⟨first, rest, rfl, hfirst⟩, hchain⟩ := ih
      exact ⟨⟨first, rest, rfl, List.mem_cons_of_mem _ hfirst⟩, hchain⟩

/-- A linked trail whose last router has a way on to its first is a cycle. -/
theorem Trail.isRouterCycle {first last : String} {rest : List String}
    (h : story.Trail (first :: rest))
    (hchain : (first :: rest).IsChain fun id next => next ∈ story.autoSuccessors id)
    (hlast : (first :: rest).getLast? = some last) (hback : first ∈ story.autoSuccessors last) :
    story.IsRouterCycle (first :: rest) where
  ne_nil := List.cons_ne_nil _ _
  nodup := h.nodup
  routes := h.routes
  linked := by
    rw [Cycle.chain_coe_cons, ← List.cons_append]
    refine List.isChain_append.mpr ⟨hchain, List.isChain_singleton _, ?_⟩
    intro id hid next hnext
    rw [hlast, Option.mem_some_iff] at hid
    rw [List.head?_cons, Option.mem_some_iff] at hnext
    rw [← hid, ← hnext]
    exact hback

/-- A cycle may be begun at any of its routers. -/
theorem IsRouterCycle.of_isRotated (h : story.IsRouterCycle cycle)
    (hrotated : other.IsRotated cycle) : story.IsRouterCycle other where
  ne_nil := fun hnil => h.ne_nil (List.isRotated_nil_iff'.mp (hnil ▸ hrotated)).symm
  nodup := hrotated.nodup_iff.mpr h.nodup
  routes := fun id hid => h.routes id (hrotated.mem_iff.mp hid)
  linked := by
    rw [Cycle.coe_eq_coe.mpr hrotated]
    exact h.linked

/-- The end of a first path, from a router on that its target has a way back to, is a cycle. -/
theorem FirstPath.isRouterCycle {target back : String} {starts front turn : List String}
    (h : story.FirstPath target [] starts (front ++ back :: turn))
    (hback : back ∈ story.autoSuccessors target) : story.IsRouterCycle (back :: turn) := by
  have htrail : story.Trail (front ++ back :: turn) := h.trail Trail.nil
  have hturn : story.Trail (back :: turn) :=
    ⟨htrail.nodup.of_append_right, fun id hid => htrail.routes id (List.mem_append_right _ hid)⟩
  have hlast : (back :: turn).getLast? = some target := by
    rw [← List.getLast?_append_of_ne_nil front (List.cons_ne_nil back turn)]
    exact h.getLast?_eq
  exact hturn.isRouterCycle (List.isChain_append.mp h.isChain.2).2.1 hlast hback

/-- What the search finds is a cycle of routers, written from its least id on. -/
theorem isRouterCycle_of_mem_searchAll (h : cycle ∈ story.searchAll.cycles) :
    story.IsRouterCycle cycle ∧
      ∃ first rest, cycle = first :: rest ∧ ∀ id ∈ first :: rest, first ≤ id := by
  obtain ⟨target, path, hpath, back, hback, hmem, rfl⟩ := mem_searchAll_cycles.mp h
  obtain ⟨front, turn, rfl, hfront⟩ := List.eq_append_cons_of_mem hmem
  rw [dropWhile_bne_append hfront]
  have hrotated := rotateToLeast_isRotated (back :: turn)
  obtain ⟨others, hform⟩ := rotateToLeast_cons back turn
  refine ⟨(hpath.isRouterCycle hback).of_isRotated hrotated, _, others, hform, fun id hid => ?_⟩
  rw [← hform] at hid
  exact leastOf_le (hrotated.mem_iff.mp hid)

/-- The closed form of a cycle runs along its ways on, the last one included. -/
theorem IsRouterCycle.isChain_autoEdge {first : String} {rest : List String}
    (h : story.IsRouterCycle (first :: rest)) :
    (first :: rest ++ [first]).IsChain story.AutoEdge := by
  have hlinked := h.linked
  rw [Cycle.chain_coe_cons] at hlinked
  exact hlinked.imp fun _ _ hnext => autoEdge_iff.mpr hnext

/-- If the ways on that the story takes without the player go round in any circle, some cycle is
reported. -/
theorem routerCycles_ne_nil_of_transGen (h : Relation.TransGen story.AutoEdge id id) :
    story.routerCycles ≠ [] := by
  obtain ⟨next, hedge, hback⟩ := Relation.TransGen.head'_iff.mp h
  have hnext := autoEdge_iff.mp hedge
  exact routerCycles_ne_nil hnext
    (leads_of_reflTransGen hback (routesAt_of_mem_autoSuccessors hnext))

/-- The search for cycles ends, also without a bound.  Each list that is reported consists of
different routers from the least one on and of the least one again, each with a way on to the next.
No list is reported twice, and if there is any circle at least one list is reported. -/
theorem routerCycles_correct (story : Story) :
    (∃ found, (∀ after, story.Visits [] ⟨[], []⟩ story.routerIds after ↔ after = found) ∧
        story.routerCycles = found.cycles.map closeCycle) ∧
      (∀ reported ∈ story.routerCycles, ∃ first rest, reported = first :: rest ++ [first] ∧
        (first :: rest).Nodup ∧
        (∀ id ∈ first :: rest, story.routesAt id = true ∧ first ≤ id) ∧
        reported.IsChain story.AutoEdge) ∧
      story.routerCycles.Nodup ∧
      ((∃ id, Relation.TransGen story.AutoEdge id id) → story.routerCycles ≠ []) := by
  refine ⟨⟨story.searchAll, fun after => visits_iff, rfl⟩, fun reported hreported => ?_,
    nodup_routerCycles, fun ⟨_, hcircle⟩ => routerCycles_ne_nil_of_transGen hcircle⟩
  obtain ⟨cycle, hcycle, rfl⟩ := List.mem_map.mp hreported
  obtain ⟨hrouters, first, rest, rfl, hleast⟩ := isRouterCycle_of_mem_searchAll hcycle
  exact ⟨first, rest, rfl, hrouters.nodup, fun id hid => ⟨hrouters.routes id hid, hleast id hid⟩,
    hrouters.isChain_autoEdge⟩

/-- Of the two cycles of the forked story one is reported. -/
theorem routerCycles_correct_forkedStory :
    ["A", "B", "D", "A"] ∈ forkedStory.routerCycles ∧
      (∃ first rest, ["A", "B", "D", "A"] = first :: rest ++ [first] ∧ (first :: rest).Nodup ∧
        (∀ id ∈ first :: rest, forkedStory.routesAt id = true ∧ first ≤ id) ∧
        ["A", "B", "D", "A"].IsChain forkedStory.AutoEdge) ∧
      Relation.TransGen forkedStory.AutoEdge "A" "A" ∧ forkedStory.routerCycles ≠ [] := by
  have hreported : ["A", "B", "D", "A"] ∈ forkedStory.routerCycles := by
    rw [routerCycles_forkedStory]
    exact List.mem_singleton_self _
  have hcircle : Relation.TransGen forkedStory.AutoEdge "A" "A" :=
    .tail (.tail (.single (autoEdge_iff.mpr (show "B" ∈ _ by decide)))
      (autoEdge_iff.mpr (show "D" ∈ _ by decide))) (autoEdge_iff.mpr (by decide))
  obtain ⟨_, hform, _, hmissed⟩ := routerCycles_correct forkedStory
  exact ⟨hreported, hform _ hreported, hcircle, hmissed ⟨_, hcircle⟩⟩

end Story
end BranchingStory
