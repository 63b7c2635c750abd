import BranchingStory.Proofs.Routers.Paths

/-!
# What the search for cycles finds

The search for cycles of routers visits ids one after the other.  `Explored` says what visiting a
list of ids adds to what was found before: the routers that can be got to without coming back to the
path, and a cycle for every way on that leads back into a path of the search.  The paths of the
search are the first paths.

Main results:

- `Story.explored_foldl_visit`: visiting a list of ids adds exactly this.
- `Story.mem_searchAll_cycles`: the cycles that the whole search finds.
-/

namespace BranchingStory

/-- A cycle is recorded from its least id on. -/
theorem CycleSearch.mem_cycles_record {search : CycleSearch} {cycle other : List String} :
    other ∈ (search.record cycle).cycles ↔ other ∈ search.cycles ∨ other = rotateToLeast cycle := by
  unfold CycleSearch.record
  by_cases hmem : rotateToLeast cycle ∈ search.cycles
  · rw [if_pos hmem]
    constructor
    · exact Or.inl
    · rintro (h | rfl)
      · exact h
      · exact hmem
  · rw [if_neg hmem]
    simp

@[simp]
theorem CycleSearch.done_record (search : CycleSearch) (cycle : List String) :
    (search.record cycle).done = search.done := by
  unfold CycleSearch.record
  simp only
  split <;> rfl

namespace Story

variable {story : Story} {path starts : List String} {id next : String}
  {before middle after : CycleSearch}

/-! ## Visiting one id -/

/-- What the search does with one id that the end of the path leads to. -/
def visit (story : Story) (fuel : Nat) (path : List String) (search : CycleSearch) (next : String) :
    CycleSearch :=
  if next ∈ search.done then search
  else if next ∈ path then search.record (path.dropWhile (· != next))
  else if story.routesAt next then story.searchFrom fuel path next search
  else search

/-- A router is searched by visiting its ways on, and is done after that. -/
theorem searchFrom_succ (fuel : Nat) (search : CycleSearch) :
    story.searchFrom (fuel + 1) path id search =
      let found := (story.autoSuccessors id).foldl (story.visit fuel (path ++ [id])) search
      { found with done := id :: found.done } :=
  rfl

/-- The whole search visits the routers, with no path leading to them. -/
theorem searchAll_eq :
    story.searchAll =
      story.routerIds.foldl (story.visit (story.routerIds.length + 1) []) ⟨[], []⟩ := by
  unfold searchAll
  refine List.foldl_ext _ _ _ fun search id hid => ?_
  simp [visit, mem_routerIds.mp hid]

/-! ## What a search adds -/

/-- A way on from the end of a path back into it closes a cycle. -/
def Closes (path : List String) (back : String) (cycle : List String) : Prop :=
  back ∈ path ∧ cycle = rotateToLeast (path.dropWhile (· != back))

/-- The cycles that are closed beyond a path that leads to a list of ids: a router with a first path
has a way on back into all of its path.  Routers that were left before are not entered. -/
def ClosedBeyond (story : Story) (path starts : List String) (done : List String)
    (cycle : List String) : Prop :=
  ∃ target onward, story.FirstPath target path starts onward ∧ target ∉ done ∧
    ∃ back ∈ story.autoSuccessors target, Closes (path ++ onward) back cycle

/-- What visiting a list of ids adds to a search, when a path leads to them. -/
structure Explored (story : Story) (path starts : List String) (before after : CycleSearch) :
    Prop where
  mem_done : ∀ id, id ∈ after.done ↔
    id ∈ before.done ∨ ∃ start ∈ starts, story.Leads path start id
  mem_cycles : ∀ cycle, cycle ∈ after.cycles ↔
    cycle ∈ before.cycles ∨ (∃ start ∈ starts, Closes path start cycle) ∨
      story.ClosedBeyond path starts before.done cycle

/-- The routers that a search has left are off its path, and lead only to others that it has left or
back into the path. -/
structure Settled (story : Story) (path : List String) (search : CycleSearch) : Prop where
  apart : ∀ id ∈ search.done, id ∉ path
  closed : ∀ id ∈ search.done, ∀ next ∈ story.autoSuccessors id, story.routesAt next = true →
    next ∈ search.done ∨ next ∈ path

namespace Settled

theorem nil : story.Settled path ⟨[], []⟩ where
  apart := by simp
  closed := by simp

/-- Nothing new can be got to from a router that the search has left. -/
theorem mem_done_of_leads (h : story.Settled path before) (hid : id ∈ before.done)
    (hlead : story.Leads path id next) : next ∈ before.done := by
  induction hlead with
  | refl _ _ => exact hid
  | step _ hnext hlead ih =>
      exact ih ((h.closed _ hid _ hnext hlead.routesAt_left).resolve_right hlead.not_mem_left)

/-- The path may grow by a router that the search has not left. -/
theorem snoc (h : story.Settled path before) (hid : id ∉ before.done) :
    story.Settled (path ++ [id]) before where
  apart := by
    intro x hx hmem
    rcases List.mem_append.mp hmem with hmem | hmem
    · exact h.apart x hx hmem
    · rw [List.mem_singleton] at hmem
      exact hid (hmem ▸ hx)
  closed := by
    intro x hx next hnext hroutes
    rcases h.closed x hx next hnext hroutes with hdone | hpath
    · exact Or.inl hdone
    · exact Or.inr (List.mem_append_left _ hpath)

/-- Visiting ids keeps a search settled. -/
theorem of_explored (h : story.Settled path before)
    (hexplored : story.Explored path starts before after) : story.Settled path after where
  apart := by
    intro x hx
    rcases (hexplored.mem_done x).mp hx with hx | ⟨_, _, hlead⟩
    · exact h.apart x hx
    · exact hlead.not_mem_right
  closed := by
    intro x hx next hnext hroutes
    rcases (hexplored.mem_done x).mp hx with hx | ⟨start, hstart, hlead⟩
    · rcases h.closed x hx next hnext hroutes with hdone | hpath
      · exact Or.inl ((hexplored.mem_done next).mpr (Or.inl hdone))
      · exact Or.inr hpath
    · by_cases hpath : next ∈ path
      · exact Or.inr hpath
      · exact Or.inl ((hexplored.mem_done next).mpr
          (Or.inr ⟨start, hstart, hlead.snoc hnext hroutes hpath⟩))

end Settled

/-! ## Composing searches -/

theorem closedBeyond_nil (done cycle : List String) : ¬ story.ClosedBeyond path [] done cycle := by
  rintro ⟨target, onward, hfirst, _⟩
  cases hfirst

/-- A cycle is closed beyond the first id, or beyond the others by a router that the first id does
not lead to. -/
theorem closedBeyond_cons {start : String} {done cycle : List String} :
    story.ClosedBeyond path (start :: starts) done cycle ↔
      story.ClosedBeyond path [start] done cycle ∨
        ∃ target onward, story.FirstPath target path starts onward ∧
          (target ∉ done ∧ ¬ story.Leads path start target) ∧
            ∃ back ∈ story.autoSuccessors target, Closes (path ++ onward) back cycle := by
  constructor
  · rintro ⟨target, onward, hfirst, hdone, hback⟩
    rcases FirstPath.cons_iff.mp hfirst with hfirst | ⟨hskip, hfirst⟩
    · exact Or.inl ⟨target, onward, hfirst, hdone, hback⟩
    · exact Or.inr ⟨target, onward, hfirst, ⟨hdone, hskip⟩, hback⟩
  · rintro (⟨target, onward, hfirst, hdone, hback⟩ |
      ⟨target, onward, hfirst, ⟨hdone, hskip⟩, hback⟩)
    · exact ⟨target, onward, FirstPath.cons_iff.mpr (Or.inl hfirst), hdone, hback⟩
    · exact ⟨target, onward, FirstPath.cons_iff.mpr (Or.inr ⟨hskip, hfirst⟩), hdone, hback⟩

namespace Explored

theorem nil : story.Explored path [] before before where
  mem_done := by simp
  mem_cycles := by simp [closedBeyond_nil]

/-- Visiting an id and then others visits them all. -/
theorem cons {start : String} (hfirst : story.Explored path [start] before middle)
    (hrest : story.Explored path starts middle after) :
    story.Explored path (start :: starts) before after where
  mem_done := by
    intro id
    rw [hrest.mem_done, hfirst.mem_done]
    simp [or_assoc]
  mem_cycles := by
    intro cycle
    have hdone (target : String) :
        target ∉ middle.done ↔ target ∉ before.done ∧ ¬ story.Leads path start target := by
      rw [hfirst.mem_done]
      simp
    have hbeyond : story.ClosedBeyond path starts middle.done cycle ↔
        ∃ target onward, story.FirstPath target path starts onward ∧
          (target ∉ before.done ∧ ¬ story.Leads path start target) ∧
            ∃ back ∈ story.autoSuccessors target, Closes (path ++ onward) back cycle := by
      simp only [ClosedBeyond, hdone]
    have hcons : story.ClosedBeyond path (start :: starts) before.done cycle ↔ _ :=
      closedBeyond_cons
    rw [hrest.mem_cycles, hfirst.mem_cycles, hcons, hbeyond]
    simp only [List.exists_mem_cons_iff, List.not_mem_nil, false_and, exists_false, or_false]
    rw [or_assoc, or_or_or_comm]

end Explored

/-! ## The search -/

/-- A router that the search has left adds nothing when it is visited again. -/
theorem explored_of_mem_done (hsettled : story.Settled path before) (hid : id ∈ before.done) :
    story.Explored path [id] before before where
  mem_done := by
    intro target
    constructor
    · exact Or.inl
    · rintro (htarget | ⟨start, hstart, hlead⟩)
      · exact htarget
      · rw [List.mem_singleton.mp hstart] at hlead
        exact hsettled.mem_done_of_leads hid hlead
  mem_cycles := by
    intro cycle
    constructor
    · exact Or.inl
    · rintro (hcycle | ⟨start, hstart, hpath, _⟩ | ⟨target, onward, hfirst, hdone, _⟩)
      · exact hcycle
      · rw [List.mem_singleton.mp hstart] at hpath
        exact absurd hpath (hsettled.apart id hid)
      · obtain ⟨start, hstart, hlead⟩ := hfirst.exists_leads
        rw [List.mem_singleton.mp hstart] at hlead
        exact absurd (hsettled.mem_done_of_leads hid hlead) hdone

/-- An id that no router outside the path has adds no router; it closes a cycle if it is on the
path. -/
theorem explored_of_not_leads (hlead : ∀ target, ¬ story.Leads path id target)
    (hdone : ∀ target, target ∈ after.done ↔ target ∈ before.done)
    (hcycles : ∀ cycle, cycle ∈ after.cycles ↔ cycle ∈ before.cycles ∨ Closes path id cycle) :
    story.Explored path [id] before after where
  mem_done := by
    intro target
    rw [hdone]
    simp [hlead]
  mem_cycles := by
    intro cycle
    have hbeyond : ¬ story.ClosedBeyond path [id] before.done cycle := by
      rintro ⟨target, onward, hfirst, _⟩
      obtain ⟨start, hstart, h⟩ := hfirst.exists_leads
      rw [List.mem_singleton.mp hstart] at h
      exact hlead target h
    rw [hcycles]
    simp [hbeyond]

/-- Visiting the ways on from a new router, and then leaving it, visits the router. -/
theorem explored_of_successors (hpath : id ∉ path) (hroutes : story.routesAt id = true)
    (hid : id ∉ before.done)
    (h : story.Explored (path ++ [id]) (story.autoSuccessors id) before after) :
    story.Explored path [id] before { after with done := id :: after.done } where
  mem_done := by
    intro target
    simp only [List.mem_cons, h.mem_done, List.not_mem_nil, or_false, exists_eq_left]
    rw [leads_iff hpath hroutes]
    tauto
  mem_cycles := by
    intro cycle
    rw [h.mem_cycles]
    refine or_congr_right ?_
    simp only [List.mem_singleton, exists_eq_left]
    constructor
    · rintro (⟨back, hback, hcloses⟩ | ⟨target, onward, hfirst, hdone, back, hback, hcloses⟩)
      · exact Or.inr ⟨id, [id], FirstPath.arrive hpath hroutes, hid, back, hback, hcloses⟩
      · have hne : id ≠ target := by
          rintro rfl
          obtain ⟨_, _, hlead⟩ := hfirst.exists_leads
          exact hlead.not_mem_right (by simp)
        exact Or.inr ⟨target, id :: onward, FirstPath.enter hpath hroutes hne hfirst, hdone, back,
          hback, by simpa using hcloses⟩
    · rintro (⟨hmem, _⟩ | ⟨target, onward, hfirst, hdone, back, hback, hcloses⟩)
      · exact absurd hmem hpath
      · obtain ⟨_, _, ⟨rfl, rfl⟩ | ⟨_, rest, rfl, hrest⟩⟩ := FirstPath.singleton_iff.mp hfirst
        · exact Or.inl ⟨back, hback, hcloses⟩
        · exact Or.inr ⟨target, rest, hrest, hdone, back, hback, by simpa using hcloses⟩

/-- Visiting one id: it was left before, it is on the path, it is a new router, or it is no router.
Only a new router is searched. -/
theorem explored_visit {fuel : Nat} (hsettled : story.Settled path before)
    (hsearch : id ∉ before.done → id ∉ path → story.routesAt id = true →
      story.Explored (path ++ [id]) (story.autoSuccessors id) before
        ((story.autoSuccessors id).foldl (story.visit fuel (path ++ [id])) before)) :
    story.Explored path [id] before (story.visit (fuel + 1) path before id) := by
  unfold visit
  by_cases hdone : id ∈ before.done
  · rw [if_pos hdone]
    exact explored_of_mem_done hsettled hdone
  rw [if_neg hdone]
  by_cases hpath : id ∈ path
  · rw [if_pos hpath]
    refine explored_of_not_leads (fun _ hlead => hlead.not_mem_left hpath) (by simp) ?_
    intro cycle
    rw [CycleSearch.mem_cycles_record]
    simp [Closes, hpath]
  rw [if_neg hpath]
  by_cases hroutes : story.routesAt id = true
  · rw [if_pos hroutes, searchFrom_succ]
    exact explored_of_successors hpath hroutes hdone (hsearch hdone hpath hroutes)
  · rw [if_neg hroutes]
    exact explored_of_not_leads (fun _ hlead => hroutes hlead.routesAt_left) (by simp)
      (by simp [Closes, hpath])

/-- Visiting a list of ids adds what can be got to from them and the cycles that are closed there.
The induction is on the fuel, which is never used up, and inside it on the list. -/
theorem explored_foldl_visit {fuel : Nat} (htrail : story.Trail path)
    (hfuel : story.routerIds.length < fuel + path.length) (hsettled : story.Settled path before) :
    story.Explored path starts before (starts.foldl (story.visit fuel path) before) := by
  induction fuel generalizing path starts before with
  | zero =>
      have := htrail.length_le
      omega
  | succ fuel ih =>
      induction starts generalizing before with
      | nil => exact Explored.nil
      | cons id starts ihstarts =>
          have hvisit : story.Explored path [id] before
              (story.visit (fuel + 1) path before id) := by
            refine explored_visit hsettled fun hdone hpath hroutes => ?_
            refine ih (htrail.snoc hpath hroutes) ?_ (hsettled.snoc hdone)
            simp only [List.length_append, List.length_singleton]
            omega
          rw [List.foldl_cons]
          exact hvisit.cons (ihstarts (hsettled.of_explored hvisit))

/-- The search finds a cycle for every first path from the routers to one with a way on back into
the path. -/
theorem mem_searchAll_cycles {cycle : List String} :
    cycle ∈ story.searchAll.cycles ↔
      ∃ target path, story.FirstPath target [] story.routerIds path ∧
        ∃ back ∈ story.autoSuccessors target, Closes path back cycle := by
  have hexplored : story.Explored [] story.routerIds ⟨[], []⟩ story.searchAll := by
    rw [searchAll_eq]
    exact explored_foldl_visit Trail.nil (by simp) Settled.nil
  rw [hexplored.mem_cycles]
  simp [Closes, ClosedBeyond]

end Story
end BranchingStory
