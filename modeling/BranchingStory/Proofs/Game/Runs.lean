import BranchingStory.Game.Basic

/-!
# Runs of a game

A player acts by the id of a choice or with a choice in hand; without either the action continues.
`Game.Reachable` has every playthrough of a game that begins for some persona at some location and
goes on by actions of an allowed kind, each with a source of its own, so that nothing is assumed
about the draws.  An action that fails gives no playthrough, and the run goes on from the one before
it.  `Game.playEach` has all results of such a run with their events.

Main results:

- `Game.begin_eq_ok_iff`: what a playthrough is that has just begun.
- `Game.respond_eq_ok_iff`: a response is that of the story to the choice meant.
- `Game.Reachable.invariant`: what holds at the beginning and is kept by every action holds
  throughout.
- `Game.Reachable.leftBy_playEach`: calls lead to playthroughs that are reached.
-/

namespace BranchingStory

/-! ## Results and errors -/

section Results

variable {ε ε' α : Type} {x : Except ε α} {a : α}

/-- Wrapping an error does not touch a result. -/
theorem mapError_eq_ok_iff {f : ε → ε'} : x.mapError f = .ok a ↔ x = .ok a := by
  cases x with
  | error e => exact ⟨nofun, nofun⟩
  | ok b =>
      constructor
      · intro h
        cases h
        rfl
      · intro h
        cases h
        rfl

/-- The result is there if there is no error. -/
theorem toOption_eq_some_iff : x.toOption = some a ↔ x = .ok a := by
  cases x <;> simp [Except.toOption]

end Results

/-! ## Actions of a player -/

/-- How a player says what to do. -/
inductive PlayerAction where
  /-- By the id of a choice, or to continue. -/
  | byId (id : Option String)
  /-- With a choice in hand, from the story or not, or to continue. -/
  | inHand (choice : Option Choice)

/-- Whether the action names a choice by its id, or none. -/
def PlayerAction.isById : PlayerAction → Bool
  | byId _ => true
  | inHand _ => false

/-- What a player does, and the source that it draws from. -/
structure Call where
  action : PlayerAction
  source : Source

/-- The playthrough that some results lead to; an error leaves the one before it. -/
def Playthrough.leftBy (s : Playthrough) (results : List Played) : Playthrough :=
  results.foldl (fun s played => played.result.toOption.getD s) s

/-- The first result is what the others go on from. -/
theorem leftBy_cons (s : Playthrough) (played : Played) (results : List Played) :
    s.leftBy (played :: results) = (played.result.toOption.getD s).leftBy results :=
  rfl

namespace Game

variable {game : Game} {s s' : Playthrough} {persona location : String} {action : PlayerAction}
  {allowed : PlayerAction → Prop} {source : Source} {calls : List Call} {e : Event}

/-- What comes of an action that draws from a source. -/
def respond (game : Game) (source : Source) (s : Playthrough) : PlayerAction → Traced Played
  | .byId id => ({ game with source := source } : Game).playById s id
  | .inHand choice => ({ game with source := source } : Game).play s choice

/-- The choice that an action means at a playthrough. -/
def choiceMeant (game : Game) (s : Playthrough) : PlayerAction → Option Choice
  | .byId id =>
      id.bind fun id =>
        (game.story.node? s.node).bind fun node => node.choices.find? fun choice => choice.id == id
  | .inHand choice => choice

/-- A choice is found by its id among those at the node. -/
theorem value_findChoice (game : Game) (node id : String) :
    (game.findChoice node id).value =
      (game.story.node? node).bind fun n => n.choices.find? fun choice => choice.id == id := by
  unfold findChoice
  cases (game.story.node? node).bind fun n => n.choices.find? fun choice => choice.id == id <;> rfl

/-- A response is the turn of the story for the choice meant. -/
theorem value_respond (game : Game) (source : Source) (s : Playthrough) (action : PlayerAction) :
    (game.respond source s action).value =
      let turn := (game.story.act game.settings.maxHops s (game.choiceMeant s action) source).value
      ⟨turn.result.mapError .routing, { game with source := turn.source }⟩ := by
  cases action with
  | inHand choice => rfl
  | byId id =>
      cases id with
      | none => rfl
      | some id =>
          simp only [respond, playById, Traced.value_bind, value_findChoice]
          rfl

/-- A response is that of the story to the choice meant. -/
theorem respond_eq_ok_iff : (game.respond source s action).value.result = .ok s' ↔
    (game.story.act game.settings.maxHops s (game.choiceMeant s action) source).value.result =
      .ok s' := by
  rw [value_respond, mapError_eq_ok_iff]

/-- A choice that is meant by its id is one of the choices at the node. -/
theorem exists_node_of_choiceMeant {choice : Choice} (hid : action.isById = true)
    (h : game.choiceMeant s action = some choice) :
    ∃ node, game.story.node? s.node = some node ∧ choice ∈ node.choices := by
  cases action with
  | inHand choice => cases hid
  | byId id =>
      obtain ⟨id, rfl, hchoice⟩ := Option.bind_eq_some_iff.mp h
      obtain ⟨node, hnode, hfind⟩ := Option.bind_eq_some_iff.mp hchoice
      exact ⟨node, hnode, List.mem_of_find?_eq_some hfind⟩

/-! ## Runs -/

/-- A playthrough has begun if the persona and the location are authored and the story has arrived
from its opening. -/
theorem begin_eq_ok_iff : (game.begin persona location).value = .ok s ↔
    ∃ ofPersona ofLocation, game.story.personas.get? persona = some ofPersona ∧
      game.story.locations.get? location = some ofLocation ∧
      (game.story.arrive game.settings.maxHops
        (game.opening persona location ofPersona ofLocation)).value = .ok s := by
  unfold begin
  cases hpersona : game.story.personas.get? persona with
  | none => simp
  | some ofPersona =>
      cases hlocation : game.story.locations.get? location with
      | none => simp
      | some ofLocation =>
          simp [mapError_eq_ok_iff]

/-- The playthroughs of a game whose actions are all of an allowed kind. -/
inductive Reachable (game : Game) (allowed : PlayerAction → Prop) : Playthrough → Prop
  | begun {persona location : String} {s : Playthrough}
      (hbegin : (game.begin persona location).value = .ok s) : Reachable game allowed s
  | acted {s s' : Playthrough} {action : PlayerAction} {source : Source}
      (hs : Reachable game allowed s) (hallowed : allowed action)
      (hrespond : (game.respond source s action).value.result = .ok s') :
      Reachable game allowed s'

/-- What holds at the beginning and is kept by every action holds throughout. -/
theorem Reachable.invariant {P : Playthrough → Prop}
    (hbegun : ∀ {persona location ofPersona ofLocation s},
      game.story.personas.get? persona = some ofPersona →
      game.story.locations.get? location = some ofLocation →
      (game.story.arrive game.settings.maxHops
        (game.opening persona location ofPersona ofLocation)).value = .ok s → P s)
    (hacted : ∀ {s s' action source}, P s → allowed action →
      (game.story.act game.settings.maxHops s (game.choiceMeant s action) source).value.result =
        .ok s' → P s')
    (h : game.Reachable allowed s) : P s := by
  induction h with
  | begun hbegin =>
      obtain ⟨ofPersona, ofLocation, hpersona, hlocation, harrive⟩ := begin_eq_ok_iff.mp hbegin
      exact hbegun hpersona hlocation harrive
  | acted hs hallowed hrespond ih => exact hacted ih hallowed (respond_eq_ok_iff.mp hrespond)

/-- What is seen of a playthrough that a game begins with is seen of one that is reached. -/
theorem exists_reachable_of_begin {α : Type} {f : Playthrough → α} {a : α}
    (allowed : PlayerAction → Prop)
    (h : (game.begin persona location).value.toOption.map f = some a) :
    ∃ s, game.Reachable allowed s ∧ f s = a := by
  obtain ⟨s, hbegin, hs⟩ := Option.map_eq_some_iff.mp h
  exact ⟨s, .begun (toOption_eq_some_iff.mp hbegin), hs⟩

/-- What is seen of the playthroughs before and after an action is seen of ones that are reached. -/
theorem exists_reachable_of_respond {α : Type} {f : Playthrough → Playthrough → α} {a : α}
    (allowed : PlayerAction → Prop) (hallowed : allowed action)
    (h : ((game.begin persona location).value.toOption.bind fun s =>
      (game.respond source s action).value.result.toOption.map (f s)) = some a) :
    ∃ s s', game.Reachable allowed s ∧ (game.respond source s action).value.result = .ok s' ∧
      game.Reachable allowed s' ∧ f s s' = a := by
  obtain ⟨s, hbegin, hs⟩ := Option.bind_eq_some_iff.mp h
  obtain ⟨s', hrespond, hs'⟩ := Option.map_eq_some_iff.mp hs
  have hreachable : game.Reachable allowed s := .begun (toOption_eq_some_iff.mp hbegin)
  have hresponse := toOption_eq_some_iff.mp hrespond
  exact ⟨s, s', hreachable, hresponse, .acted hreachable hallowed hresponse, hs'⟩

/-! ## Calls -/

/-- What comes of calls, one after the other.  A call that fails gives no playthrough, and the next
one goes on from the one before it. -/
def playEach (game : Game) : List Call → Playthrough → Traced (List Played)
  | [], _ => pure []
  | call :: calls, s => do
      let played ← game.respond call.source s call.action
      let others ← game.playEach calls (played.result.toOption.getD s)
      return played :: others

/-- The first call gives the first result, and the others go on from it. -/
theorem value_playEach_cons (game : Game) (call : Call) (calls : List Call) (s : Playthrough) :
    (game.playEach (call :: calls) s).value =
      let played := (game.respond call.source s call.action).value
      played :: (game.playEach calls (played.result.toOption.getD s)).value :=
  rfl

/-- The events of the first call come first. -/
theorem events_playEach_cons (game : Game) (call : Call) (calls : List Call) (s : Playthrough) :
    (game.playEach (call :: calls) s).events =
      let played := game.respond call.source s call.action
      played.events ++ (game.playEach calls (played.value.result.toOption.getD s)).events := by
  rw [playEach]
  simp

/-- An event of calls is an event of one of them, wherever that call is made. -/
theorem exists_mem_events_of_playEach (he : e ∈ (game.playEach calls s).events) :
    ∃ call ∈ calls, ∃ t, e ∈ (game.respond call.source t call.action).events := by
  induction calls generalizing s with
  | nil => cases he
  | cons call calls ih =>
      rw [events_playEach_cons] at he
      rcases List.mem_append.mp he with he | he
      · exact ⟨call, List.mem_cons_self, s, he⟩
      · obtain ⟨other, hother, hevent⟩ := ih he
        exact ⟨other, List.mem_cons_of_mem call hother, hevent⟩

/-- Calls of an allowed kind lead to playthroughs that are reached. -/
theorem Reachable.leftBy_playEach (h : game.Reachable allowed s)
    (hallowed : ∀ call ∈ calls, allowed call.action) :
    game.Reachable allowed (s.leftBy (game.playEach calls s).value) := by
  induction calls generalizing s with
  | nil => exact h
  | cons call calls ih =>
      rw [value_playEach_cons, leftBy_cons]
      apply ih ?_ fun other hother => hallowed other (List.mem_cons_of_mem call hother)
      cases hresult : (game.respond call.source s call.action).value.result with
      | error e => exact h
      | ok s' => exact .acted h (hallowed call List.mem_cons_self) hresult

end Game
end BranchingStory
