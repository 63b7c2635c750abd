import BranchingStory.Game.Exchange
import BranchingStory.Terminal.Linter

/-!
# Sessions at the terminal

A session is a game and the playthrough that is shown.  Each line typed is a command; the session
answers with text and goes on or ends.  Blank lines are passed over.
-/

namespace BranchingStory

/-! ## Commands -/

/-- What a player can type. -/
inductive Command where
  | quit
  | help
  | continue
  /-- Select a choice by its position or id. -/
  | choose (argument : Option String)
  | stats
  | flags
  | restart
  /-- Begin as a persona at a location. -/
  | start (profile : Option (String × String))
  | seed (seed : Option UInt64)
  | unknown (word : String)
deriving DecidableEq, Repr

/-- The command on a line that starts with a word. -/
def Command.ofWords (word : String) (rest : List String) : Command :=
  match word with
  | "quit" | "exit" | "q" => .quit
  | "help" => .help
  | "continue" | "c" => .continue
  | "choose" => .choose rest.head?
  | "stats" => .stats
  | "flags" => .flags
  | "restart" => .restart
  | "start" =>
      match rest with
      | [persona, location] => .start (some (persona, location))
      | _ => .start none
  | "seed" => .seed (rest.head?.bind wordOfText?)
  | other => .unknown other

/-- The command on a line, unless the line is blank. -/
def Command.ofLine? (line : String) : Option Command :=
  match words line with
  | [] => none
  | word :: rest => some (.ofWords word rest)

/-- The lines that explain the commands. -/
def Command.helpLines : List String :=
  ["Commands:",
    "  continue (or c)          advance a narrative node",
    "  choose <option_id|n>     pick an option on a decision node",
    "  stats                    show every stat with its bounds",
    "  flags                    show collected flags",
    "  restart                  start a brand new game",
    "  start <persona> <loc>    start with an explicit persona and location",
    "  seed <n>                 set RNG seed",
    "  help                     list commands",
    "  quit                     exit"]

/-! ## Showing a playthrough -/

/-- The choices that a view shows. -/
def View.choices : View → List ChoiceView
  | decision _ _ choices => choices
  | _ => []

/-- The choice at the position that an argument names, counted from one. -/
def View.choiceAt? (view : View) (argument : String) : Option ChoiceView :=
  match (wordOfText? argument).map UInt64.toNat with
  | some (i + 1) => view.choices[i]?
  | _ => none

/-- The id that an argument selects: the id of the choice at the position that it names, else the
argument itself. -/
def View.selectedId (view : View) (argument : String) : String :=
  ((view.choiceAt? argument).map ChoiceView.id).getD argument

/-- The line for a choice at a position. -/
def ChoiceView.line (position : Nat) (choice : ChoiceView) : String :=
  "  " ++ toString position ++ ". " ++ choice.label ++ " (" ++ choice.id ++ ")"
    ++ if choice.locked then " [locked]" else ""

/-- The lines for a rubric result. -/
def Scorecard.lines (card : Scorecard) : List String :=
  ("Literacy: " ++ card.score.text ++ "/" ++ card.maxScore.text) ::
    card.credits.map fun credit =>
      "  + " ++ credit.dimension.getD credit.id ++ " " ++ credit.explanation.getD ""

/-- The lines for a view. -/
def View.lines : View → List String
  | narrative _ body => [body, "  (continue)"]
  | decision _ body choices =>
      body :: choices.zipIdx.map fun (choice, i) => choice.line (i + 1)
  | outcome _ body result description card skill =>
      [body, "", "--- Outcome: " ++ result.getD "none" ++ " ---"]
        ++ description.toList
        ++ (card.map Scorecard.lines).getD []
        ++ (skill.map fun r =>
          r.stat.label ++ ": " ++ r.value.text ++ "/" ++ r.bounds.max.text).toList
        ++ ["  (restart to play again)"]
  | stalled node => ["Router '" ++ node ++ "' could not route. Try 'restart'."]
  | missing node => ["Node '" ++ node ++ "' is missing from the catalog."]

/-- The line for a reading. -/
def Reading.line (r : Reading) : String :=
  "  " ++ padRight 3 r.stat.key ++ " " ++ padRight 22 r.stat.label ++ " " ++ padLeft 3 r.value.text
    ++ "  [" ++ r.bounds.min.text ++ ".." ++ r.bounds.max.text ++ "]"

/-! ## Sessions -/

/-- A game and the playthrough that is shown. -/
structure Session where
  game : Game
  state : Playthrough

/-- The answer to a line: what is printed, and the session after it unless it has ended. -/
structure Reply where
  printed : String
  next : Option Session

namespace Session

/-- The session goes on as it is. -/
def say (session : Session) (lines : List String) : Reply :=
  ⟨asLines lines, some session⟩

/-- What the player sees of the playthrough. -/
def view (session : Session) : View :=
  session.game.story.view session.state

/-- The lines that show the playthrough. -/
def shown (session : Session) : List String :=
  let s := session.state
  let feedback := if s.inFeedback then " | feedback" else ""
  ["", "[" ++ s.node ++ " | " ++ s.persona ++ " | " ++ s.location ++ feedback ++ "]"]
    ++ session.view.lines ++ [""]

/-- Go on with what came of an action.  After an error the playthrough stays as it is. -/
def follow (session : Session) (played : Played) : Reply :=
  let session := { session with game := played.game }
  match played.result with
  | .error e => session.say ["ERROR: " ++ e.message]
  | .ok s =>
      let same := if s = session.state then ["(nothing happened)"] else []
      let session := { session with state := s }
      session.say (same ++ session.shown)

/-- Obey a command. -/
def obey (session : Session) : Command → Reply
  | .quit => ⟨asLines ["Goodbye."], none⟩
  | .help => session.say Command.helpLines
  | .continue => session.follow (session.game.playById session.state none).value
  | .choose none => session.say ["Usage: choose <option_id|n>"]
  | .choose (some argument) =>
      session.follow
        (session.game.playById session.state (some (session.view.selectedId argument))).value
  | .stats => session.say ((session.game.story.readings session.state).map Reading.line)
  | .flags => session.say ["  " ++ quotedList session.state.flags.toList]
  | .restart => session.follow session.game.beginRandom.value
  | .start (some (persona, location)) =>
      session.follow ⟨(session.game.begin persona location).value, session.game⟩
  | .start none =>
      session.say
        ["Usage: start <persona> <location>",
          "  personas: " ++ quotedList session.game.story.personas.keys,
          "  locations: " ++ quotedList session.game.story.locations.keys]
  | .seed none => session.say ["Usage: seed <n>"]
  | .seed (some seed) =>
      { session with game := session.game.reseed seed }.say
        ["Seed set to " ++ toString seed.toNat]
  | .unknown word => session.say ["Unknown command: " ++ word ++ ". Type 'help'."]

/-- Answer a line. -/
def step (session : Session) (line : String) : Reply :=
  match Command.ofLine? line with
  | none => ⟨"", some session⟩
  | some command => session.obey command

/-- What is printed before each line is read. -/
def prompt : String := "play> "

/-- Everything that is printed for the lines of an input. -/
def transcript (session : Session) : List String → String
  | [] => prompt
  | line :: rest =>
      let reply := session.step line
      prompt ++ reply.printed ++
        match reply.next with
        | some next => next.transcript rest
        | none => ""

end Session
end BranchingStory
