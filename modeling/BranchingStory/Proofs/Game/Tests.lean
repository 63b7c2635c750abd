import BranchingStory.Proofs.Game.Runs
import BranchingStory.Proofs.Play.Tests
import BranchingStory.Proofs.Story.Plain

/-!
# Conditions in a run of a game

The journal of a run has the events of its beginning and of every call, each call going on from the
playthrough that came of the one before, or from where that one failed.  A player who acts by the
ids of choices takes only choices that are offered, so the conditions that are tested in the run are
conditions of the story.

Main results:

- `Game.journalFrom_eq_events_playEach`: the journal has the events of the results.
- `Game.reports_of_mem_journal`: which tests the journal of a run shows.
- `Game.conditions_parse_of_errors`: after a report without errors every one of these conditions
  parses, and fails for its values only.
-/

namespace BranchingStory
namespace Game

variable {game : Game} {s : Playthrough} {persona location start condition : String}
  {action : PlayerAction} {calls : List Call} {e : Event}

/-! ## The journal of a run -/

/-- The events of calls, one after the other. -/
def journalFrom (game : Game) : List Call → Playthrough → List Event
  | [], _ => []
  | call :: calls, s =>
      let played := game.respond call.source s call.action
      played.events ++ game.journalFrom calls (played.value.result.toOption.getD s)

/-- These are the events of the results. -/
theorem journalFrom_eq_events_playEach (game : Game) (calls : List Call) (s : Playthrough) :
    game.journalFrom calls s = (game.playEach calls s).events := by
  induction calls generalizing s with
  | nil => rfl
  | cons call calls ih => rw [journalFrom, events_playEach_cons, ih]

/-- The events of a run that begins for a persona at a location and goes on by calls. -/
def journal (game : Game) (persona location : String) (calls : List Call) : List Event :=
  let begun := game.begin persona location
  begun.events ++
    match begun.value with
    | .ok s => game.journalFrom calls s
    | .error _ => []

/-! ## Tests in a run -/

/-- The beginning of a game tests conditions of the story only. -/
theorem only_begin (game : Game) (persona location : String) :
    (game.begin persona location).Only game.story.Reports := by
  unfold begin
  split
  · exact Traced.only_pure _ _
  · exact Traced.only_pure _ _
  · refine (Traced.only_note trivial).bind fun _ => ?_
    exact (Story.only_arrive game.story _ _).bind fun _ => Traced.only_pure _ _

/-- Looking for a choice tests no condition. -/
theorem only_findChoice (game : Game) (node id : String) :
    (game.findChoice node id).Only game.story.Reports := by
  unfold findChoice
  split
  · exact Traced.only_pure _ _
  · exact Traced.only_noting trivial _

/-- A choice that the node has makes the story test its own conditions only. -/
theorem only_play (game : Game) {choice : Option Choice}
    (hchoice : ∀ chosen, choice = some chosen →
      ∃ node, game.story.node? s.node = some node ∧ chosen ∈ node.choices) :
    (game.play s choice).Only game.story.Reports :=
  (Story.only_act hchoice _ _).bind fun _ => Traced.only_pure _ _

/-- A player who acts by id makes the story test its own conditions only. -/
theorem only_respond (hid : action.isById = true) (source : Source) (s : Playthrough) :
    (game.respond source s action).Only game.story.Reports := by
  have hmeant : ∀ chosen, game.choiceMeant s action = some chosen →
      ∃ node, game.story.node? s.node = some node ∧ chosen ∈ node.choices :=
    fun _ hchosen => exists_node_of_choiceMeant hid hchosen
  cases action with
  | inHand choice => cases hid
  | byId id =>
      cases id with
      | none => exact only_play { game with source := source } nofun
      | some id =>
          refine (only_findChoice { game with source := source } s.node id).bind_value ?_
          rw [value_findChoice]
          exact only_play { game with source := source } hmeant

/-- The journal of a run shows tests of conditions of the story only. -/
theorem reports_of_mem_journal (hcalls : ∀ call ∈ calls, call.action.isById = true)
    (he : e ∈ game.journal persona location calls) : game.story.Reports e := by
  rcases List.mem_append.mp he with he | he
  · exact only_begin game persona location e he
  · split at he
    · rw [journalFrom_eq_events_playEach] at he
      obtain ⟨call, hcall, t, hevent⟩ := exists_mem_events_of_playEach he
      exact only_respond (hcalls call hcall) call.source t e hevent
    · cases he

/-- If the report on the story lists no error, a player who acts by the ids of choices never makes
the story test a condition that does not parse.  So a condition that fails has values that do not go
together, or it divides by zero.  This is so in every run, whoever plays where and whatever is
drawn, and for every call on a playthrough that is taken up from elsewhere. -/
theorem conditions_parse_of_errors (hlint : (game.story.lintReport start).errors = []) :
    (∀ persona location calls, (∀ call ∈ calls, call.action.isById = true) →
      ∀ e ∈ game.journal persona location calls, e.IsSound) ∧
    ∀ s source id, ∀ e ∈ (game.respond source s (.byId id)).events, e.IsSound := by
  constructor
  · intro persona location calls hcalls e he
    exact Story.isSound_of_reports hlint (reports_of_mem_journal hcalls he)
  · intro s source id e he
    exact Story.isSound_of_reports hlint (only_respond rfl source s e he)

/-- A bridge that a student crosses with a chance of its own, and a fork behind it. -/
def bridgeNodes : List (String × Node) :=
  [("BANK", .decision ⟨none, ∅, ∅⟩
      [⟨"cross", "Cross", none, ∅, .none, none, [],
        Table.ofList [("Student", ⟨none, some [⟨some "1 / S > 0", 1, .none⟩]⟩)], "FORK"⟩]),
    ("END", .outcome ⟨none, ∅, ∅⟩),
    ("FORK", .router [⟨some "location > 3", "BANK", .none⟩] (some "END"))]

/-- A game of these nodes. -/
def bridgeGame : Game where
  story := .plain bridgeNodes [⟨"S > 0", 1, "Safe", none⟩]
  settings := { startNode := "BANK", maxHops := 1 }
  source := .scripted []

/-- Cross the bridge. -/
def crossing : Call where
  action := .byId (some "cross")
  source := .scripted []

/-- All nodes can be reached from the bank. -/
theorem reachable_bridgeGame :
    bridgeGame.story.reachable "BANK" = ["END", "FORK", "BANK"] := by
  have hkeys : bridgeGame.story.nodes.keys = ["BANK", "END", "FORK"] := by decide
  have hbank : bridgeGame.story.successors "BANK" = ["FORK"] := by decide
  have hend : bridgeGame.story.successors "END" = [] := by decide
  have hfork : bridgeGame.story.successors "FORK" = ["BANK", "END"] := by decide
  simp [Story.reachable, Story.explore, hkeys, hbank, hend, hfork]

/-- The report on the bridge has no error. -/
theorem errors_bridgeGame : (bridgeGame.story.lintReport "BANK").errors = [] := by
  have hreachable : bridgeGame.story.checkReachable "BANK" = [] := by
    unfold Story.checkReachable
    rw [reachable_bridgeGame]
    rfl
  rw [Story.lintReport, Story.lint, hreachable]
  decide +kernel

/-- On the way over the bridge two conditions fail.  Both parse, as the report has no error. -/
theorem conditions_parse_of_errors_bridgeGame :
    (bridgeGame.story.lintReport "BANK").errors = [] ∧
      (bridgeGame.journal "Student" "River" [crossing]).filterMap Event.line? =
        ["INFO new game: Student at River",
          "WARN condition `1 / S > 0` failed: division by zero",
          "DEBUG probability table has no eligible entries",
          "DEBUG option 'cross' at 'BANK' -> 'FORK'",
          "WARN condition `location > 3` failed: type mismatch: cannot compare string with number",
          "DEBUG router 'FORK' -> 'END' (default)",
          "WARN no outcome rule matched at node 'END'",
          "INFO outcome None reached at 'END', literacy 0/0"] ∧
      ∀ e ∈ bridgeGame.journal "Student" "River" [crossing], e.IsSound := by
  refine ⟨errors_bridgeGame, by decide +kernel, ?_⟩
  apply (conditions_parse_of_errors errors_bridgeGame).1
  simp [crossing, PlayerAction.isById]

end Game
end BranchingStory
