import BranchingStory.Proofs.Routers.Search
import BranchingStory.Proofs.Story.Plain
import Mathlib.Data.List.Cycle
import Mathlib.Data.List.TakeWhile

/-!
# Cycles of routers

A cycle of routers is a list of different routers, each of which has a way on to the next and the
last to the first.  The search reports a cycle in one form: from its least id on, and closed by
repeating that id.

Main results:

- `rotateToLeast_eq_of_isRotated`: the form does not depend on where a cycle is begun.
- `Story.mem_routerCycles_iff_endsFirstPath`: a cycle is reported exactly if, begun at some router
  of it, it is the end of a first path.
- `Story.not_all_cycles_reported`: so of cycles that share routers some can be left out.
- `Story.routerCycles_ne_nil`: if there is any cycle, some cycle is reported.
-/

namespace BranchingStory

variable {cycle other : List String} {id : String}

/-! ## The least id -/

/-- The least id is one of them. -/
theorem leastOf_mem (first : String) (rest : List String) :
    leastOf first rest ∈ first :: rest := by
  unfold leastOf
  induction rest generalizing first with
  | nil => exact List.mem_cons_self
  | cons next rest ih =>
      rw [List.foldl_cons]
      split
      · exact List.mem_cons_of_mem _ (ih next)
      · rcases List.mem_cons.mp (ih first) with hmem | hmem
        · rw [hmem]
          exact List.mem_cons_self
        · exact List.mem_cons_of_mem _ (List.mem_cons_of_mem _ hmem)

/-- It is below all of them. -/
theorem leastOf_le {first : String} {rest : List String} (hid : id ∈ first :: rest) :
    leastOf first rest ≤ id := by
  unfold leastOf
  induction rest generalizing first id with
  | nil =>
      rw [List.mem_singleton.mp hid]
      exact String.le_refl first
  | cons next rest ih =>
      rw [List.foldl_cons]
      split
      · rename_i hlt
        rcases List.mem_cons.mp hid with rfl | hid
        · exact String.le_trans (ih List.mem_cons_self) (String.not_lt.mp (String.lt_asymm hlt))
        · exact ih hid
      · rename_i hlt
        rcases List.mem_cons.mp hid with rfl | hid
        · exact ih List.mem_cons_self
        · rcases List.mem_cons.mp hid with rfl | hid
          · exact String.le_trans (ih List.mem_cons_self) (String.not_lt.mp hlt)
          · exact ih (List.mem_cons_of_mem _ hid)

/-! ## The form of a cycle -/

/-- A cycle in its form begins with its least id. -/
theorem rotateToLeast_cons (first : String) (rest : List String) :
    ∃ others, rotateToLeast (first :: rest) = leastOf first rest :: others := by
  have hdrop : (first :: rest).dropWhile (· != leastOf first rest) ≠ [] := by
    intro hnil
    have := List.dropWhile_eq_nil_iff.mp hnil _ (leastOf_mem first rest)
    simp at this
  obtain ⟨head, others, heq⟩ := List.exists_cons_of_ne_nil hdrop
  have hhead := List.head_dropWhile_not (· != leastOf first rest) hdrop
  simp only [heq, List.head_cons, bne_eq_false_iff_eq] at hhead
  unfold rotateToLeast
  simp only [heq, hhead, List.cons_append]
  exact ⟨_, rfl⟩

/-- The form of a cycle is the cycle begun at another place. -/
theorem rotateToLeast_isRotated (cycle : List String) : (rotateToLeast cycle).IsRotated cycle := by
  cases cycle with
  | nil => exact List.IsRotated.refl []
  | cons first rest =>
      have hsplit : (first :: rest).takeWhile (· != leastOf first rest) ++
          (first :: rest).dropWhile (· != leastOf first rest) = first :: rest :=
        List.takeWhile_append_dropWhile
      have hrotated : (rotateToLeast (first :: rest)).IsRotated
          ((first :: rest).takeWhile (· != leastOf first rest) ++
            (first :: rest).dropWhile (· != leastOf first rest)) :=
        List.isRotated_append
      rw [hsplit] at hrotated
      exact hrotated

/-- A path from the first visit to an id on. -/
theorem dropWhile_bne_append {before rest : List String} (h : id ∉ before) :
    (before ++ id :: rest).dropWhile (· != id) = id :: rest := by
  have hbefore : ∀ other ∈ before, (other != id) = true := fun other hother =>
    bne_iff_ne.mpr fun heq => h (heq ▸ hother)
  rw [List.dropWhile_append_of_pos hbefore, List.dropWhile_cons_of_neg (by simp)]

/-- A list without repetition can be begun at an id in one way only. -/
theorem eq_of_isRotated_cons {rest rest' : List String} (hnodup : (id :: rest).Nodup)
    (h : (id :: rest).IsRotated (id :: rest')) : rest = rest' := by
  obtain ⟨n, hn, hrotate⟩ := List.isRotated_iff_mod.mp h
  rcases Nat.lt_or_eq_of_le hn with hlt | heq
  · have hhead := List.head?_rotate hlt
    rw [hrotate, List.head?_cons, show some id = (id :: rest)[0]? from rfl] at hhead
    have hzero : 0 = n := (List.getElem?_inj (by simp) hnodup).mp hhead
    rw [← hzero, List.rotate_zero] at hrotate
    exact (List.cons.inj hrotate).2
  · rw [heq, List.rotate_length] at hrotate
    exact (List.cons.inj hrotate).2

/-- The form does not depend on where a cycle is begun. -/
theorem rotateToLeast_eq_of_isRotated (hnodup : cycle.Nodup) (h : cycle.IsRotated other) :
    rotateToLeast cycle = rotateToLeast other := by
  cases cycle with
  | nil => rw [List.isRotated_nil_iff'.mp h]
  | cons first rest =>
      cases other with
      | nil => exact absurd (List.isRotated_nil_iff.mp h) (by simp)
      | cons first' rest' =>
          have hleast : leastOf first rest = leastOf first' rest' :=
            String.le_antisymm (leastOf_le (h.mem_iff.mpr (leastOf_mem first' rest')))
              (leastOf_le (h.mem_iff.mp (leastOf_mem first rest)))
          obtain ⟨others, hothers⟩ := rotateToLeast_cons first rest
          obtain ⟨others', hothers'⟩ := rotateToLeast_cons first' rest'
          have hrotated : (leastOf first rest :: others).IsRotated
              (leastOf first rest :: others') := by
            rw [← hothers, hleast, ← hothers']
            exact ((rotateToLeast_isRotated _).trans h).trans (rotateToLeast_isRotated _).symm
          have hform : (leastOf first rest :: others).Nodup := by
            rw [← hothers]
            exact (rotateToLeast_isRotated _).nodup_iff.mpr hnodup
          rw [hothers, hothers', ← hleast, eq_of_isRotated_cons hform hrotated]

/-- The closed form tells cycles apart. -/
theorem closeCycle_injective : Function.Injective closeCycle := by
  intro cycle other h
  unfold closeCycle at h
  cases cycle with
  | nil =>
      cases other with
      | nil => rfl
      | cons _ _ => simp at h
  | cons first rest =>
      cases other with
      | nil => simp at h
      | cons first' rest' => exact (List.append_inj' h rfl).1

/-! ## Reported cycles -/

namespace Story

variable {story : Story} {next : String}

/-- A cycle of routers along ways on that the story takes by itself. -/
structure IsRouterCycle (story : Story) (cycle : List String) : Prop where
  ne_nil : cycle ≠ []
  nodup : cycle.Nodup
  routes : ∀ id ∈ cycle, story.routesAt id = true
  linked : (cycle : Cycle String).Chain fun id next => next ∈ story.autoSuccessors id

/-- The last router of a cycle has a way on to the first one, wherever the cycle is begun. -/
theorem IsRouterCycle.mem_autoSuccessors_of_isRotated (h : story.IsRouterCycle cycle)
    (hrotated : (next :: other).IsRotated cycle) :
    next ∈ story.autoSuccessors ((next :: other).getLast (by simp)) := by
  have hlinked := h.linked
  rw [← Cycle.coe_eq_coe.mpr hrotated, Cycle.chain_ne_nil _ (by simp)] at hlinked
  exact List.isChain_cons_cons.mp hlinked |>.1

/-- A reported cycle is what the search has found. -/
theorem closeCycle_mem_routerCycles :
    closeCycle cycle ∈ story.routerCycles ↔ cycle ∈ story.searchAll.cycles :=
  List.mem_map_of_injective closeCycle_injective

/-- Begun at some router of it, a cycle is the end of a first path from the routers, taken in
increasing order. -/
def EndsFirstPath (story : Story) (cycle : List String) : Prop :=
  ∃ target path, story.FirstPath target [] story.routerIds path ∧
    ∃ turn, turn.IsRotated cycle ∧ turn <:+ path

/-- A cycle is listed from its least id on exactly if it ends the first path to it. -/
theorem closeCycle_rotateToLeast_mem_iff (hcycle : story.IsRouterCycle cycle) :
    closeCycle (rotateToLeast cycle) ∈ story.routerCycles ↔ story.EndsFirstPath cycle := by
  rw [closeCycle_mem_routerCycles, mem_searchAll_cycles]
  constructor
  · rintro ⟨target, path, hpath, back, hback, hmem, hform⟩
    refine ⟨target, path, hpath, path.dropWhile (· != back), ?_, List.dropWhile_suffix _⟩
    have hturn := (rotateToLeast_isRotated (path.dropWhile (· != back))).symm
    rw [← hform] at hturn
    exact hturn.trans (rotateToLeast_isRotated cycle)
  · rintro ⟨target, path, hpath, turn, hturn, before, rfl⟩
    cases turn with
    | nil => exact absurd (List.isRotated_nil_iff'.mp hturn).symm hcycle.ne_nil
    | cons back rest =>
        have hlast : (back :: rest).getLast (by simp) = target := by
          have := hpath.getLast?_eq
          rw [List.getLast?_append_of_ne_nil _ (by simp), List.getLast?_eq_some_getLast (by simp)]
            at this
          exact Option.some.inj this
        have hnodup : (before ++ back :: rest).Nodup := by
          simpa using (hpath.trail Trail.nil).nodup
        have hbefore : back ∉ before := fun hmem =>
          (List.nodup_append.mp hnodup).2.2 back hmem back List.mem_cons_self rfl
        refine ⟨target, before ++ back :: rest, hpath, back, ?_, by simp, ?_⟩
        · rw [← hlast]
          exact hcycle.mem_autoSuccessors_of_isRotated hturn
        · rw [dropWhile_bne_append hbefore]
          exact rotateToLeast_eq_of_isRotated hcycle.nodup hturn.symm

/-- A cycle is reported exactly if, begun at some router of it, it is the end of a first path.  What
is reported is the cycle from its least id on, closed by repeating that id. -/
theorem mem_routerCycles_iff_endsFirstPath (hcycle : story.IsRouterCycle cycle) :
    ∃ first rest, (first :: rest).IsRotated cycle ∧ (∀ id ∈ cycle, first ≤ id) ∧
      (first :: rest ++ [first] ∈ story.routerCycles ↔ story.EndsFirstPath cycle) := by
  obtain ⟨head, tail, rfl⟩ := List.exists_cons_of_ne_nil hcycle.ne_nil
  obtain ⟨others, hform⟩ := rotateToLeast_cons head tail
  refine ⟨leastOf head tail, others, ?_, fun id hid => leastOf_le hid, ?_⟩
  · rw [← hform]
    exact rotateToLeast_isRotated _
  · rw [← closeCycle_rotateToLeast_mem_iff hcycle, hform]
    rfl

/-- If some router leads back to itself, some cycle is reported. -/
theorem routerCycles_ne_nil (hnext : next ∈ story.autoSuccessors id)
    (hback : story.Leads [] next id) : story.routerCycles ≠ [] := by
  have hstart : ∃ start ∈ story.routerIds, story.Leads [] start id :=
    ⟨next, mem_routerIds.mpr hback.routesAt_left, hback⟩
  have hroom : story.routerIds.length < story.routerIds.length + 1 + ([] : List String).length := by
    simp
  obtain ⟨target, path, hpath, _, back, hsucc, hmem⟩ :=
    exists_firstPath_closing Trail.nil hroom hstart List.not_mem_nil hnext hback
  have hfound : rotateToLeast (path.dropWhile (· != back)) ∈ story.searchAll.cycles :=
    mem_searchAll_cycles.mpr ⟨target, path, hpath, back, hsucc, hmem, rfl⟩
  exact List.ne_nil_of_mem (closeCycle_mem_routerCycles.mpr hfound)

/-! ## Cycles that share routers -/

/-- Routers that part at `A` and meet again at `D`, which leads back to `A`. -/
def forkedNodes : List (String × Node) :=
  [("A", .router [⟨some "S > 1", "B", .none⟩] (some "C")),
    ("B", .router [] (some "D")),
    ("C", .router [] (some "D")),
    ("D", .router [] (some "A"))]

/-- The story of the forked routers. -/
def forkedStory : Story :=
  .plain forkedNodes []

theorem isRouterCycle_forkedStory (middle : String) (h : middle = "B" ∨ middle = "C") :
    forkedStory.IsRouterCycle ["A", middle, "D"] := by
  rcases h with rfl | rfl
  · exact ⟨by simp, by decide, by decide, by rw [Cycle.chain_coe_cons]; decide⟩
  · exact ⟨by simp, by decide, by decide, by rw [Cycle.chain_coe_cons]; decide⟩

/-- Either cycle begins with `A` when it begins with its least id. -/
theorem eq_of_isRotated_forkedCycle {middle first : String} {rest : List String}
    (h : middle = "B" ∨ middle = "C")
    (hrotated : (first :: rest).IsRotated ["A", middle, "D"])
    (hleast : ∀ id ∈ ["A", middle, "D"], first ≤ id) : first :: rest = ["A", middle, "D"] := by
  have hfirst : first = "A" := by
    have hmem : first ∈ ["A", middle, "D"] := hrotated.mem_iff.mp List.mem_cons_self
    have hle : first ≤ "A" := hleast "A" List.mem_cons_self
    simp only [List.mem_cons, List.not_mem_nil, or_false] at hmem
    rcases hmem with rfl | rfl | rfl
    · rfl
    · rcases h with rfl | rfl
      · exact absurd hle (by decide)
      · exact absurd hle (by decide)
    · exact absurd hle (by decide)
  subst hfirst
  have hnodup := (isRouterCycle_forkedStory middle h).nodup
  rw [eq_of_isRotated_cons hnodup hrotated.symm]

theorem routerCycles_forkedStory : forkedStory.routerCycles = [["A", "B", "D", "A"]] := by
  decide

/-- In the forked story both branches close a cycle, but only the one through `B` ends a first
path. -/
theorem endsFirstPath_forkedStory :
    forkedStory.IsRouterCycle ["A", "B", "D"] ∧ forkedStory.EndsFirstPath ["A", "B", "D"] ∧
      forkedStory.IsRouterCycle ["A", "C", "D"] ∧ ¬ forkedStory.EndsFirstPath ["A", "C", "D"] := by
  have hthroughB := isRouterCycle_forkedStory "B" (Or.inl rfl)
  have hthroughC := isRouterCycle_forkedStory "C" (Or.inr rfl)
  obtain ⟨first, rest, hrotated, hleast, hiff⟩ := mem_routerCycles_iff_endsFirstPath hthroughB
  obtain ⟨first', rest', hrotated', hleast', hiff'⟩ := mem_routerCycles_iff_endsFirstPath hthroughC
  obtain ⟨rfl, rfl⟩ := List.cons.inj (eq_of_isRotated_forkedCycle (Or.inl rfl) hrotated hleast)
  obtain ⟨rfl, rfl⟩ := List.cons.inj (eq_of_isRotated_forkedCycle (Or.inr rfl) hrotated' hleast')
  rw [routerCycles_forkedStory] at hiff hiff'
  exact ⟨hthroughB, hiff.mp (by decide), hthroughC, fun h => absurd (hiff'.mpr h) (by decide)⟩

/-- Not every cycle of routers is reported: the one through `C` is left out. -/
theorem not_all_cycles_reported :
    ¬ ∀ (doc : Document) (story : Story), Story.ofDocument? doc = .ok story →
      ∀ cycle, story.IsRouterCycle cycle →
        ∃ first rest, (first :: rest).IsRotated cycle ∧ (∀ id ∈ cycle, first ≤ id) ∧
          first :: rest ++ [first] ∈ story.routerCycles := by
  intro h
  have hthroughC := isRouterCycle_forkedStory "C" (Or.inr rfl)
  obtain ⟨first, rest, hrotated, _, hmem⟩ :=
    h _ forkedStory (ofDocument?_plain forkedNodes []) _ hthroughC
  rw [routerCycles_forkedStory, List.mem_singleton] at hmem
  have hclosed : first :: rest = ["A", "B", "D"] :=
    (List.append_inj' (show first :: rest ++ [first] = ["A", "B", "D"] ++ ["A"] from hmem) rfl).1
  rw [hclosed] at hrotated
  exact absurd (hrotated.mem_iff.mp (show "B" ∈ ["A", "B", "D"] by decide)) (by decide)

end Story
end BranchingStory
