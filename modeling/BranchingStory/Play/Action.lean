import BranchingStory.Play.Chance
import BranchingStory.Play.Routing

/-!
# Actions

What a player's action does to a playthrough.  An action is a choice, or none to continue a
narrative.

1. Pending feedback stops come first, one for each action.
2. A narrative leads to its successor.  A feedback stop without a successor leads back to where the
   story goes on after the excursion.
3. A choice at a decision has its effects and leads on.

An action that is not possible leaves the playthrough as it is.
-/

namespace BranchingStory

/-- The result of an action, and the source after it. -/
structure Turn where
  result : Except RoutingError Playthrough
  source : Source

/-! ## Taking a choice -/

/-- The stats after the adjustment of a choice and the one for the persona. -/
def Choice.adjustStats (choice : Choice) (bounds : PerStat Bounds) (s : Playthrough) : Stats :=
  let stats := choice.adjustment.applyTo bounds s.stats
  match (choice.effectsFor? s.persona).bind PersonaEffects.adjustment with
  | some adjustment => adjustment.applyTo bounds stats
  | none => stats

/-- The effects of a choice, before the story moves on: the visit is recorded, the adjustments and
then the chance table are applied, the flags are set, and a feedback excursion ends. -/
def Choice.take (choice : Choice) (bounds : PerStat Bounds) (s : Playthrough) (source : Source) :
    Traced (Playthrough × Source) := do
  let adjusted := {
    s with
    history := s.history ++ [⟨s.node, some choice.id⟩]
    stats := choice.adjustStats bounds s }
  let outcome ← Chance.apply bounds adjusted (choice.chancesFor s.persona) source
  Traced.note (.chose choice.id s.node choice.next)
  return ({
    adjusted with
    stats := outcome.stats
    flags := s.flags.insertAll choice.flags
    returnNode := none
    node := choice.next }, outcome.source)

/-! ## Actions -/

namespace Story

/-- Go to the next pending stop.  A stop without an id ends the excursion instead. -/
def visitStop (story : Story) (limit : Nat) (s : Playthrough) (stop : String)
    (rest : List String) : Traced (Except RoutingError Playthrough) := do
  if stop ≠ "" then
    Traced.note (.feedbackStop s.node stop)
    return .ok { s with node := stop, queue := rest }
  match s.returnNode with
  | some resume => story.arrive limit { s with queue := [], returnNode := none, node := resume }
  | none => return .ok s

/-- Leave a node for another one and move on from there. -/
def leaveFor (story : Story) (limit : Nat) (s : Playthrough) (target : String) :
    Traced (Except RoutingError Playthrough) :=
  story.arrive limit { s with history := s.history ++ [⟨s.node, none⟩], node := target }

/-- Continue from a narrative with a given successor. -/
def continueFrom (story : Story) (limit : Nat) (s : Playthrough) (successor : Option String) :
    Traced (Except RoutingError Playthrough) := do
  match successor, s.returnNode with
  | some target, _ => story.leaveFor limit s target
  | none, some resume => story.leaveFor limit { s with returnNode := none } resume
  | none, none =>
      Traced.note (.storyEnds s.node s.location)
      return .ok s

/-- Take a choice at a decision, if it is open. -/
def decide (story : Story) (limit : Nat) (s : Playthrough) (choice : Choice) (source : Source) :
    Traced Turn := do
  if !choice.isOpenTo s then
    Traced.note (.rejected choice.id s.node)
    return ⟨.ok s, source⟩
  let (taken, source) ← choice.take story.bounds s source
  return ⟨← story.arrive limit taken, source⟩

/-- Apply an action to a playthrough. -/
def act (story : Story) (limit : Nat) (s : Playthrough) (choice : Option Choice)
    (source : Source) : Traced Turn := do
  match story.node? s.node, s.queue with
  | none, _ =>
      Traced.note (.actedNowhere s.node)
      return ⟨.ok s, source⟩
  | some _, stop :: rest => return ⟨← story.visitStop limit s stop rest, source⟩
  | some node, [] =>
      match node, choice with
      | .narrative .., _ =>
          return ⟨← story.continueFrom limit s (node.successor? s.location), source⟩
      | .decision .., some choice => story.decide limit s choice source
      | _, _ => return ⟨.ok s, source⟩

end Story
end BranchingStory
