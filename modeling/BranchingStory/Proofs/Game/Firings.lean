import BranchingStory.Proofs.Game.Runs
import BranchingStory.Proofs.Play.Firings
import BranchingStory.Proofs.Story.Plain
import Mathlib.Data.List.Perm.Subperm

/-!
# Firings in a run of a game

A run begins for a persona at a location and goes on by calls, each with an action and a source of
its own.  It counts the fan-out routers that fire, in the beginning and in every call, and the calls
that resume the story after an excursion.  A call that fails gives no playthrough: the run goes on
from the one before, and nothing has been resumed.

Main results:

- `Game.state_foldl_goOn`, `Game.firings_foldl_goOn`: a run is where its calls lead, and has fired
  what they fire; `Game.reachable_of_run?`: so its playthrough is reached.
- `Game.fires_once`: no fan-out router fires twice in a run, one that has fired is passed whenever
  the story comes to it, and the story is resumed at most as often as routers have fired.
-/

namespace BranchingStory

/-- The ids of fan-out routers, in increasing order. -/
def Story.fanoutIds (story : Story) : List String :=
  (story.nodes.toList.filter fun entry => entry.2.isFanout).map Prod.fst

/-- The ids are those of the fan-out routers. -/
theorem Story.mem_fanoutIds {story : Story} {id : String} : id ∈ story.fanoutIds ↔
    ∃ branches resume, story.node? id = some (.fanout branches resume) := by
  simp only [fanoutIds, List.mem_map, List.mem_filter, Prod.exists, exists_and_right,
    exists_eq_right, Table.mem_toList_iff]
  constructor
  · rintro ⟨node, hnode, hfanout⟩
    cases node with
    | fanout branches resume => exact ⟨branches, resume, hnode⟩
    | _ => cases hfanout
  · rintro ⟨branches, resume, hnode⟩
    exact ⟨_, hnode, rfl⟩

/-- A run of a game so far. -/
structure Run where
  state : Playthrough
  /-- Fan-out routers that have fired, one entry for each firing. -/
  firings : List String
  /-- How many calls have resumed the story after an excursion. -/
  resumptions : Nat

namespace Game

variable {game : Game} {s s' : Playthrough} {persona location : String} {action : PlayerAction}
  {source : Source} {calls : List Call} {run : Run} {allowed : PlayerAction → Prop}

/-! ## Runs with their firings -/

/-- The run after one more call. -/
def goOn (game : Game) (run : Run) (call : Call) : Run :=
  let played := game.respond call.source run.state call.action
  match played.value.result with
  | .ok s =>
      { state := s
        firings := run.firings ++ played.firings
        resumptions := run.resumptions + (game.story.resumesFrom run.state).toNat }
  | .error _ => { run with firings := run.firings ++ played.firings }

/-- The run that begins for a persona at a location and goes on by calls. -/
def run? (game : Game) (persona location : String) (calls : List Call) : Option Run :=
  let begun := game.begin persona location
  begun.value.toOption.map fun s => calls.foldl game.goOn ⟨s, begun.firings, 0⟩

@[simp]
theorem firings_goOn (game : Game) (run : Run) (call : Call) :
    (game.goOn run call).firings =
      run.firings ++ (game.respond call.source run.state call.action).firings := by
  simp only [goOn]
  split <;> rfl

@[simp]
theorem state_goOn (game : Game) (run : Run) (call : Call) :
    (game.goOn run call).state =
      (game.respond call.source run.state call.action).value.result.toOption.getD run.state := by
  simp only [goOn]
  split
  · rename_i hresult
    rw [hresult]
    rfl
  · rename_i hresult
    rw [hresult]
    rfl

/-- A run is where its calls have led. -/
theorem state_foldl_goOn (calls : List Call) (run : Run) :
    (calls.foldl game.goOn run).state =
      run.state.leftBy (game.playEach calls run.state).value := by
  induction calls generalizing run with
  | nil => rfl
  | cons call calls ih => rw [List.foldl_cons, ih, state_goOn, value_playEach_cons, leftBy_cons]

/-- What has fired in a run stays, and what fires in further calls comes after it. -/
theorem firings_foldl_goOn (calls : List Call) (run : Run) :
    (calls.foldl game.goOn run).firings =
      run.firings ++ (game.playEach calls run.state).firings := by
  induction calls generalizing run with
  | nil => exact (List.append_nil _).symm
  | cons call calls ih =>
      rw [List.foldl_cons, ih, state_goOn, firings_goOn, List.append_assoc, playEach]
      simp only [Traced.firings_bind, Traced.firings_pure, List.append_nil]

/-- The account of the firings and resumptions of a run. -/
def Accounted (game : Game) (run : Run) : Prop :=
  game.story.FiringsAccounted run.state run.firings run.resumptions

/-- What fires in a call fires in the action of the story. -/
theorem firings_respond (game : Game) (source : Source) (s : Playthrough) (action : PlayerAction) :
    (game.respond source s action).firings =
      (game.story.act game.settings.maxHops s (game.choiceMeant s action) source).firings := by
  cases action with
  | inHand choice => simp [respond, play, choiceMeant]
  | byId id =>
      cases id with
      | none => simp [respond, playById, play, choiceMeant]
      | some id =>
          have hfind : (game.findChoice s.node id).firings = [] := by
            unfold findChoice
            split <;> simp [Event.firedRouter?]
          simp only [respond, playById, play, Traced.firings_bind, Traced.firings_pure,
            List.append_nil, value_findChoice]
          rw [show (findChoice { game with source := source } s.node id).firings = [] from hfind]
          rfl

/-- What fires in the beginning fires where the story arrives from its opening. -/
theorem firings_begin {ofPersona ofLocation : Adjustment}
    (hpersona : game.story.personas.get? persona = some ofPersona)
    (hlocation : game.story.locations.get? location = some ofLocation) :
    (game.begin persona location).firings =
      (game.story.arrive game.settings.maxHops
        (game.opening persona location ofPersona ofLocation)).firings := by
  simp [begin, hpersona, hlocation, Event.firedRouter?]

/-- A call that fails fires nothing. -/
theorem firings_respond_of_error {e : GameError}
    (h : (game.respond source s action).value.result = .error e) :
    (game.respond source s action).firings = [] := by
  rw [firings_respond]
  rw [value_respond] at h
  cases hresult : (game.story.act game.settings.maxHops s (game.choiceMeant s action)
      source).value.result with
  | ok s' =>
      simp only [hresult] at h
      cases h
  | error e => exact Story.firings_act_of_error hresult

/-- Every call keeps the account. -/
theorem Accounted.goOn (hrun : game.Accounted run) (call : Call) :
    game.Accounted (game.goOn run call) := by
  unfold Game.goOn
  cases hresult : (game.respond call.source run.state call.action).value.result with
  | ok s =>
      have hact := Story.FiringsAccounted.act hrun (respond_eq_ok_iff.mp hresult)
      rw [← firings_respond] at hact
      simp only [hresult]
      exact hact
  | error e =>
      simp only [hresult, firings_respond_of_error hresult, List.append_nil]
      exact hrun

/-- So the account is kept throughout a run. -/
theorem Accounted.foldl (hrun : game.Accounted run) (calls : List Call) :
    game.Accounted (calls.foldl game.goOn run) := by
  induction calls generalizing run with
  | nil => exact hrun
  | cons call calls ih => exact ih (hrun.goOn call)

/-- A run begins with the firings of its beginning. -/
theorem run?_eq_some_iff : game.run? persona location calls = some run ↔
    ∃ s, (game.begin persona location).value = .ok s ∧
      calls.foldl game.goOn ⟨s, (game.begin persona location).firings, 0⟩ = run := by
  simp only [run?, Option.map_eq_some_iff, toOption_eq_some_iff]

/-- The playthrough of a run is reached by its calls. -/
theorem reachable_of_run? (h : game.run? persona location calls = some run)
    (hallowed : ∀ call ∈ calls, allowed call.action) : game.Reachable allowed run.state := by
  obtain ⟨s, hbegin, rfl⟩ := run?_eq_some_iff.mp h
  rw [state_foldl_goOn]
  exact (Reachable.begun hbegin).leftBy_playEach hallowed

/-- Every run has an account. -/
theorem accounted_of_run? (h : game.run? persona location calls = some run) :
    game.Accounted run := by
  obtain ⟨s, hbegin, rfl⟩ := run?_eq_some_iff.mp h
  obtain ⟨ofPersona, ofLocation, hpersona, hlocation, harrive⟩ := begin_eq_ok_iff.mp hbegin
  apply Accounted.foldl
  have hfires := game.story.fires_arrive game.settings.maxHops
    (game.opening persona location ofPersona ofLocation)
  rw [harrive] at hfires
  have hopening := (game.story.firingsAccounted_nil (s := game.opening persona location ofPersona
    ofLocation) rfl).walk hfires
  rw [List.nil_append, ← firings_begin hpersona hlocation] at hopening
  exact hopening

/-- What it is for a router to fire in the beginning of a run. -/
theorem mem_firings_begin_iff {id : String} : id ∈ (game.begin persona location).firings ↔
    ∃ ofPersona ofLocation s, game.story.personas.get? persona = some ofPersona ∧
      game.story.locations.get? location = some ofLocation ∧
      game.story.FiresAt id (game.opening persona location ofPersona ofLocation) s ∧
      (game.begin persona location).value = .ok s := by
  cases hpersona : game.story.personas.get? persona with
  | none => simp [begin, hpersona]
  | some ofPersona =>
      cases hlocation : game.story.locations.get? location with
      | none => simp [begin, hpersona, hlocation]
      | some ofLocation =>
          rw [firings_begin hpersona hlocation, Story.mem_firings_arrive_iff]
          simp [begin_eq_ok_iff, hpersona, hlocation]

/-- What it is for a router to fire in a call. -/
theorem mem_firings_respond_iff {id : String} : id ∈ (game.respond source s action).firings ↔
    ∃ t s', game.story.SetsOut s (game.choiceMeant s action) source t ∧
      game.story.FiresAt id t s' ∧ (game.respond source s action).value.result = .ok s' := by
  simp only [firings_respond, respond_eq_ok_iff]
  exact Story.mem_firings_act_iff

/-- In every run of a game:

- no fan-out router fires twice;
- a router fires in the beginning or in a call exactly if the story comes to it and comes to rest at
  the first of the stops whose conditions hold, with the others pending;
- from then on, whenever the story comes to the router it goes on where the router says, any
  excursion is over, and no condition of the router is tested;
- the story has been resumed after an excursion at most as often as routers have fired, and there
  are at least as many fan-out routers. -/
theorem fires_once (h : game.run? persona location calls = some run) :
    run.firings.Nodup ∧
      (∀ id, id ∈ (game.begin persona location).firings ↔
        ∃ ofPersona ofLocation s, game.story.personas.get? persona = some ofPersona ∧
          game.story.locations.get? location = some ofLocation ∧
          game.story.FiresAt id (game.opening persona location ofPersona ofLocation) s ∧
          (game.begin persona location).value = .ok s) ∧
      (∀ source action id, id ∈ (game.respond source run.state action).firings ↔
        ∃ t s', game.story.SetsOut run.state (game.choiceMeant run.state action) source t ∧
          game.story.FiresAt id t s' ∧
          (game.respond source run.state action).value.result = .ok s') ∧
      (∀ id ∈ run.firings, ∃ branches resume,
        game.story.node? id = some (.fanout branches resume) ∧
        ∀ more later, game.run? persona location (calls ++ more) = some later →
          ∀ source action t m,
            game.story.SetsOut later.state (game.choiceMeant later.state action) source t →
            Relation.ReflTransGen game.story.Moves t m → m.node = id →
            game.story.step m =
              ⟨.move { m with returnNode := none, node := resume }, [.alreadyFired id]⟩) ∧
      run.resumptions ≤ run.firings.length ∧
      run.firings.length ≤ game.story.fanoutIds.length := by
  have haccount : game.Accounted run := accounted_of_run? h
  refine ⟨haccount.nodup, fun id => mem_firings_begin_iff,
    fun source action id => mem_firings_respond_iff, ?_, ?_, ?_⟩
  · intro id hid
    obtain ⟨branches, resume, hnode⟩ := haccount.isFanout id hid
    refine ⟨branches, resume, hnode, ?_⟩
    intro more later hlater source action t m hsets hmoves hm
    have hmark : id ∈ m.marks := by
      have hlaterAccount : game.Accounted later := accounted_of_run? hlater
      obtain ⟨s, hbegin, rfl⟩ := run?_eq_some_iff.mp hlater
      obtain ⟨s', hbegin', rfl⟩ := run?_eq_some_iff.mp h
      obtain rfl := Except.ok.inj (hbegin.symm.trans hbegin')
      apply ((hlaterAccount.setOut hsets).moves hmoves).marks
      rw [List.foldl_append, firings_foldl_goOn]
      exact List.mem_append_left _ hid
    subst hm
    exact Story.step_of_mem_marks hnode hmark
  · exact Nat.le_of_add_right_le haccount.resumptions_le
  · refine (List.subperm_of_subset haccount.nodup ?_).length_le
    intro id hid
    exact Story.mem_fanoutIds.mpr (haccount.isFanout id hid)

/-- Two stops for a player without any safety. -/
def duskBranches : List Branch :=
  [⟨some "S < 1", "TIP", .none⟩, ⟨some "S < 2", "HINT", .none⟩]

/-- Nodes behind a gate to which the story comes back: after the stops it goes on at dusk, and from
there it leads to the gate again. -/
def duskNodes : List (String × Node) :=
  [("DUSK", .narrative ⟨none, ∅, ∅⟩ (some "GATE") none),
    ("GATE", .fanout duskBranches "DUSK"),
    ("HINT", .narrative ⟨none, ∅, ∅⟩ none none),
    ("TIP", .narrative ⟨none, ∅, ∅⟩ none none)]

/-- A game of these nodes. -/
def duskGame : Game where
  story := .plain duskNodes []
  settings := { startNode := "GATE", maxHops := 1 }
  source := .scripted []

/-- Continue without a draw. -/
def continuing : Call where
  action := .byId none
  source := .scripted []

/-- The gate fires when the game begins, and after its two stops the story is resumed.  One more
call comes back to the gate, and nothing fires. -/
theorem run?_duskGame :
    (duskGame.run? "Student" "River" [continuing, continuing, continuing]).map
        (fun run => (run.state.node, run.firings, run.resumptions)) =
      some ("DUSK", ["GATE"], 1) := by
  decide +kernel

/-- From dusk on, the gate is passed without a look at its conditions. -/
theorem fires_once_of_duskGame :
    ∃ run, duskGame.run? "Student" "River" [continuing, continuing, continuing] = some run ∧
      run.firings = ["GATE"] ∧ run.firings.Nodup ∧
      run.resumptions = 1 ∧ run.resumptions ≤ run.firings.length ∧
      ∀ more later, duskGame.run? "Student" "River" ([continuing, continuing, continuing] ++ more) =
          some later →
        ∀ source action t m,
          duskGame.story.SetsOut later.state (duskGame.choiceMeant later.state action) source t →
          Relation.ReflTransGen duskGame.story.Moves t m → m.node = "GATE" →
          duskGame.story.step m =
            ⟨.move { m with returnNode := none, node := "DUSK" }, [.alreadyFired "GATE"]⟩ := by
  obtain ⟨run, hrun, hseen⟩ := Option.map_eq_some_iff.mp run?_duskGame
  obtain ⟨-, hfirings, hresumptions⟩ := by simpa only [Prod.mk.injEq] using hseen
  obtain ⟨hnodup, -, -, hpassed, hle, -⟩ := fires_once hrun
  obtain ⟨branches, resume, hnode, hpasses⟩ := hpassed "GATE" (by simp [hfirings])
  have hgate : duskGame.story.node? "GATE" = some (.fanout duskBranches "DUSK") := rfl
  rw [hgate] at hnode
  cases hnode
  exact ⟨run, hrun, hfirings, hnodup, hresumptions, hle, hpasses⟩

end Game
end BranchingStory
