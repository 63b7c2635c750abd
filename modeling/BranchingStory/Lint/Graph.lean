import BranchingStory.Story.Basic

/-!
# The graph of a story

Which nodes an id leads to, with and without the player, which ids can be reached, and the cycles
that consist of routers alone.

- `Story.successors` are all ways on from a node.
- `Story.autoSuccessors` are the ways that the story takes by itself: all branches and the default
  of a router, and the continuation of a fan-out router.  The branches of a fan-out router are
  stops, so they are not among them.
- `Story.routerCycles` are the cycles that a depth-first search finds.
-/

namespace BranchingStory

/-! ## Ways on -/

/-- The ways on that the story takes from a node by itself. -/
def Node.autoSuccessors : Node → List String
  | router branches fallback => branches.map Branch.next ++ fallback.toList
  | fanout _ resume => [resume]
  | _ => []

namespace Story

/-- Every id that the node with an id leads to. -/
def successors (story : Story) (id : String) : List String :=
  match story.node? id with
  | some node => node.successors
  | none => []

/-- The ids that the story moves on to from an id by itself. -/
def autoSuccessors (story : Story) (id : String) : List String :=
  match story.node? id with
  | some node => node.autoSuccessors
  | none => []

/-- The ids of routers of either kind, in increasing order. -/
def routerIds (story : Story) : List String :=
  (story.nodes.toList.filter fun entry => entry.2.isRouting).map Prod.fst

/-! ### Reachable nodes -/

/-- Ids of nodes that a search has not seen. -/
def unseen (story : Story) (seen : List String) : List String :=
  story.nodes.keys.filter fun id => !seen.contains id

/-- Seeing one more id of a node leaves fewer that have not been seen. -/
theorem length_unseen_cons_lt {story : Story} {seen : List String} {id : String}
    (hnode : id ∈ story.nodes.keys) (hseen : id ∉ seen) :
    (story.unseen (id :: seen)).length < (story.unseen seen).length := by
  have hfilter : story.unseen (id :: seen) = (story.unseen seen).filter (· ≠ id) := by
    rw [unseen, unseen, List.filter_filter]
    refine List.filter_congr fun x _ => ?_
    by_cases hx : x = id <;> simp [hx]
  rw [hfilter, List.length_filter_lt_length_iff_exists]
  exact ⟨id, by simp [unseen, hnode, hseen], by simp⟩

/-- The ids of nodes that a search finds from a queue, beside those it has seen, the latest
first. -/
def explore (story : Story) (queue seen : List String) : List String :=
  match queue with
  | [] => seen
  | id :: rest =>
      if id ∈ story.nodes.keys ∧ id ∉ seen then
        explore story (rest ++ story.successors id) (id :: seen)
      else explore story rest seen
termination_by ((story.unseen seen).length, queue.length)
decreasing_by
  · rename_i h
    exact Prod.Lex.left _ _ (length_unseen_cons_lt h.1 h.2)
  · exact Prod.Lex.right _ (Nat.lt_succ_self _)

/-- The ids of nodes that can be reached from an id along any ways on. -/
def reachable (story : Story) (start : String) : List String :=
  story.explore [start] []

end Story

/-!
## Cycles of routers

A cycle that consists of routers alone never comes to rest by itself.  The search goes depth first
from every router in increasing order.  A way on that leads back into the current path closes a
cycle; a router that is left is not entered again.  Each cycle found is listed once, from its least
id on, and closed by repeating that id.
-/

/-- The least of a nonempty list of ids. -/
def leastOf (first : String) (rest : List String) : String :=
  rest.foldl (fun least id => if id < least then id else least) first

/-- A cycle written from its least id on. -/
def rotateToLeast : List String → List String
  | [] => []
  | first :: rest =>
      let least := leastOf first rest
      (first :: rest).dropWhile (· != least) ++ (first :: rest).takeWhile (· != least)

/-- A cycle with its first id repeated at the end. -/
def closeCycle (cycle : List String) : List String :=
  cycle ++ cycle.take 1

/-- What a search for cycles has found out: the routers it has left, and the cycles in the order of
their discovery. -/
structure CycleSearch where
  done : List String
  cycles : List (List String)

/-- Note a cycle, unless it is known. -/
def CycleSearch.record (search : CycleSearch) (cycle : List String) : CycleSearch :=
  let cycle := rotateToLeast cycle
  if cycle ∈ search.cycles then search
  else { search with cycles := search.cycles ++ [cycle] }

namespace Story

/-- Search from a router, where `path` leads to it.  The fuel bounds the routers on a path. -/
def searchFrom (story : Story) : Nat → List String → String → CycleSearch → CycleSearch
  | 0, _, _, search => search
  | fuel + 1, path, id, search =>
      let path := path ++ [id]
      let search := (story.autoSuccessors id).foldl
        (fun search next =>
          if next ∈ search.done then search
          else if next ∈ path then search.record (path.dropWhile (· != next))
          else if story.routesAt next then story.searchFrom fuel path next search
          else search)
        search
      { search with done := id :: search.done }

/-- Search from every router that is not left yet. -/
def searchAll (story : Story) : CycleSearch :=
  story.routerIds.foldl
    (fun search id =>
      if id ∈ search.done then search
      else story.searchFrom (story.routerIds.length + 1) [] id search)
    ⟨[], []⟩

/-- The cycles of routers, each closed by its first id. -/
def routerCycles (story : Story) : List (List String) :=
  story.searchAll.cycles.map closeCycle

end Story
end BranchingStory
