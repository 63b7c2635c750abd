import BranchingStory.Play.Scoring

/-!
# Routing

From a node that does not wait for the player the story moves on by itself.  `Story.step` is one
step of this; `Story.walk` repeats it until the playthrough rests, and `Story.advance` reports a
walk that passes more routers than a limit allows.
-/

namespace BranchingStory

/-- Why a playthrough rests where it is. -/
inductive Stop where
  /-- At a narrative or a decision. -/
  | interactive
  /-- At the first stop of a feedback excursion that has just begun. -/
  | feedback
  /-- At an outcome. -/
  | outcome
  /-- At an id that names no node. -/
  | missingNode
  /-- At a router that has no way on. -/
  | stalled
deriving DecidableEq, Repr

/-- A walk that passed too many routers. -/
structure RoutingError where
  start : String
  last : String
  hops : Nat
deriving DecidableEq, Repr

/-- The wording of a routing error. -/
def RoutingError.message (e : RoutingError) : String :=
  "routing from '" ++ e.start ++ "' did not terminate after " ++ toString e.hops
    ++ " hops (last node '" ++ e.last ++ "')"

/-! ## One step -/

/-- Whether the condition of a branch holds; a branch without one is never taken. -/
def Branch.isTaken (s : Playthrough) (branch : Branch) : Traced Bool :=
  testingOr false s branch.condition

/-- What a step does: it comes to rest, or it moves on to another node. -/
inductive Step where
  | rest (stop : Stop) (s : Playthrough)
  | move (s : Playthrough)
deriving DecidableEq, Repr

/-- The step at a router: along the first branch whose condition holds, whose adjustment is applied,
else along the default, else nowhere. -/
def stepRouter (bounds : PerStat Bounds) (branches : List Branch) (fallback : Option String)
    (s : Playthrough) : Traced Step := do
  match ← Traced.find? (Branch.isTaken s) branches with
  | some branch =>
      Traced.note (.routed s.node branch.next)
      return .move { s.adjust bounds branch.adjustment with node := branch.next }
  | none =>
      match fallback with
      | some target =>
          Traced.note (.routedByDefault s.node target)
          return .move { s with node := target }
      | none =>
          Traced.note (.routerStuck s.node)
          return .rest .stalled s

/-- The step at a fan-out router.  A router that has fired is passed, and its excursion is over.
Otherwise it fires if a branch holds: the first such branch is the first stop, and the others
wait in the queue. -/
def stepFanout (branches : List Branch) (resume : String) (s : Playthrough) : Traced Step := do
  if s.node ∈ s.marks then
    Traced.note (.alreadyFired s.node)
    return .move { s with returnNode := none, node := resume }
  match ← Traced.filter (Branch.isTaken s) branches with
  | [] => return .move { s with node := resume }
  | first :: others =>
      Traced.note (.fired s.node first.next others.length)
      return .rest .feedback {
        s with
        marks := s.marks.insert s.node
        queue := others.map Branch.next
        returnNode := some resume
        node := first.next }

/-- One step from where the playthrough is. -/
def Story.step (story : Story) (s : Playthrough) : Traced Step := do
  match story.node? s.node with
  | none =>
      Traced.note (.nodeMissing s.node)
      return .rest .missingNode s
  | some (.narrative ..) | some (.decision ..) => return .rest .interactive s
  | some (.outcome _) => return .rest .outcome (← story.score s)
  | some (.router branches fallback) => stepRouter story.bounds branches fallback s
  | some (.fanout branches resume) => stepFanout branches resume s

/-! ## Walks -/

/-- Where a walk ends: at rest, or in front of a router that the limit does not allow any more. -/
inductive Walk where
  | rested (stop : Stop) (s : Playthrough)
  | exhausted (s : Playthrough)
deriving DecidableEq, Repr

/-- Repeat steps until the playthrough rests, passing at most a number of routers. -/
def Story.walk (story : Story) : Nat → Playthrough → Traced Walk
  | 0, s => do
      if story.routesAt s.node then
        return .exhausted s
      match ← story.step s with
      | .rest stop s => return .rested stop s
      | .move s => return .exhausted s
  | hops + 1, s => do
      match ← story.step s with
      | .rest stop s => return .rested stop s
      | .move s => story.walk hops s

/-- The result of a walk; the playthrough is where the walk ended also when it is an error. -/
structure Advance where
  result : Except RoutingError Stop
  state : Playthrough

/-- Move a playthrough on until it rests.  More than `limit` routers on the way are an error. -/
def Story.advance (story : Story) (limit : Nat) (s : Playthrough) : Traced Advance := do
  match ← story.walk limit s with
  | .rested stop s => return ⟨.ok stop, s⟩
  | .exhausted last => return ⟨.error ⟨s.node, last.node, limit⟩, last⟩

/-- The playthrough after moving on, or the error. -/
def Story.arrive (story : Story) (limit : Nat) (s : Playthrough) :
    Traced (Except RoutingError Playthrough) := do
  let advance ← story.advance limit s
  return advance.result.map fun _ => advance.state

end BranchingStory
