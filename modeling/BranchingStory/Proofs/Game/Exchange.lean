import BranchingStory.Game.Exchange
import BranchingStory.Proofs.Game.Feedback
import BranchingStory.Proofs.Playthrough.RoundTrip
import Mathlib.Data.List.Forall2

/-!
# Playing in texts

A front end keeps playthroughs as texts: it sends the one that it received last with its next
message and receives the text of another.  In memory the same messages are carried out on the
playthroughs themselves.  Both ways of playing go along together, since a text of a playthrough is
read as it: the texts that are received stand for the playthroughs in memory, one by one, and a
sequence of messages succeeds in texts just if it does in memory.

Main results:

- `Message.replies_iff`: a message has the same outcome in texts and in memory.
- `Game.exchanges_iff`: so have messages one after the other.
- `Game.playthroughs_survive_exchange`: playthroughs survive being sent as texts.
-/

namespace BranchingStory

/-- What a front end does while it plays. -/
inductive Message where
  | begin (persona location : String)
  | beginRandom
  | reseed (seed : UInt64)
  /-- Apply the choice with an id to the last playthrough; the empty id is to continue. -/
  | play (choice : String)
deriving DecidableEq, Repr

namespace Message

/-! ## One message in memory -/

/-- The playthrough that was given and the game after it, unless there was an error. -/
def success? (played : Played) : Option (Option Playthrough × Game) :=
  match played.result with
  | .ok s => some (some s, played.game)
  | .error _ => none

/-- The playthrough that a message gives, if it gives one, and the game after it.  There is no
outcome if the message fails, or if there is no playthrough yet to play on. -/
def inMemory? (game : Game) (held : Option Playthrough) :
    Message → Option (Option Playthrough × Game)
  | begin persona location => success? ⟨(game.begin persona location).value, game⟩
  | beginRandom => success? game.beginRandom.value
  | reseed seed => some (none, game.reseed seed)
  | play choice =>
      held.bind fun s =>
        success? (game.playById s (if choice = "" then none else some choice)).value

/-! ## One message in texts -/

/-- The request for a message.  To play on, the text that was received last is read. -/
def request? (held : Option String) : Message → Option Request
  | begin persona location => some (.begin persona location)
  | beginRandom => some .beginRandom
  | reseed seed => some (.reseed seed)
  | play choice => (held.bind Playthrough.ofText?).map fun s => .play s choice

/-- The front end gets a reply to a message: a text of the playthrough in the answer, or no text. -/
inductive Replies (game : Game) (held : Option String) (message : Message) :
    Option String → Game → Prop
  | text {request : Request} {s : Playthrough} {text : String} {next : Game}
      (hrequest : message.request? held = some request)
      (hanswer : (game.answer request).value = ⟨.ok s.toJson, next⟩) (htext : s.IsText text) :
      Replies game held message (some text) next
  | nothing {request : Request} {next : Game}
      (hrequest : message.request? held = some request)
      (hanswer : (game.answer request).value = ⟨.ok .null, next⟩) :
      Replies game held message none next

end Message

/-! ## Messages one after the other -/

namespace Game

/-- Carry out messages in memory: the playthroughs that they give, and the game after them. -/
def carryOut? : Game → Option Playthrough → List Message → Option (List Playthrough × Game)
  | game, _, [] => some ([], game)
  | game, held, message :: messages => do
      let (s, next) ← message.inMemory? game held
      let (states, last) ← carryOut? next (s.or held) messages
      return (s.toList ++ states, last)

/-- The front end sends messages and receives texts. -/
inductive Exchanges : Game → Option String → List Message → List String → Game → Prop
  | done {game : Game} {held : Option String} : Exchanges game held [] [] game
  | message {game next last : Game} {held text : Option String} {message : Message}
      {messages : List Message} {texts : List String} (hreply : message.Replies game held text next)
      (h : Exchanges next (text.or held) messages texts last) :
      Exchanges game held (message :: messages) (text.toList ++ texts) last

end Game

variable {game next last : Game} {s : Playthrough} {held : Option String}
  {state : Option Playthrough} {messages : List Message} {texts : List String}

/-! ## The same outcome -/

namespace Message

/-- A success is a playthrough that an action has given, with the game after it. -/
theorem success?_eq_some_iff {played : Played} {s : Option Playthrough} :
    success? played = some (s, next) ↔
      ∃ t, s = some t ∧ played.result = .ok t ∧ played.game = next := by
  unfold success?
  split
  · rename_i t hresult
    simp [hresult, eq_comm]
  · rename_i e hresult
    simp [hresult]

/-- The answer to an action is the text of a playthrough if the action succeeds with it. -/
theorem answerPlayed_eq_text_iff {played : Played} :
    Game.answerPlayed played = ⟨.ok s.toJson, next⟩ ↔ success? played = some (some s, next) := by
  rw [success?_eq_some_iff, Game.answerPlayed, Answer.mk.injEq]
  constructor
  · rintro ⟨hresult, rfl⟩
    cases hplayed : played.result with
    | error e =>
        rw [hplayed] at hresult
        cases hresult
    | ok t =>
        rw [hplayed] at hresult
        have hsame : t = s := Playthrough.eq_of_toJson_eq (Except.ok.inj hresult)
        exact ⟨t, congrArg some hsame.symm, rfl, rfl⟩
  · rintro ⟨t, ⟨⟩, hresult, rfl⟩
    rw [hresult]
    exact ⟨rfl, rfl⟩

/-- An action is never answered with nothing. -/
theorem answerPlayed_ne_null {played : Played} :
    Game.answerPlayed played ≠ ⟨.ok .null, next⟩ := by
  rw [Game.answerPlayed, ne_eq, Answer.mk.injEq]
  rintro ⟨hresult, -⟩
  cases hplayed : played.result <;> (rw [hplayed] at hresult; cases hresult)

/-- A message whose request is answered with a playthrough has the outcome of the playthrough. -/
theorem replies_iff_of_answerPlayed {message : Message} {request : Request} {played : Played}
    {text : Option String} (hrequest : message.request? held = some request)
    (hanswer : (game.answer request).value = Game.answerPlayed played) :
    message.Replies game held text next ↔
      ∃ s, success? played = some (s, next) ∧ Option.Rel Playthrough.IsText s text := by
  constructor
  · rintro (⟨hrequest', hanswer', htext⟩ | ⟨hrequest', hanswer'⟩)
    · obtain rfl := Option.some.inj (hrequest.symm.trans hrequest')
      rw [hanswer, answerPlayed_eq_text_iff] at hanswer'
      exact ⟨_, hanswer', .some htext⟩
    · obtain rfl := Option.some.inj (hrequest.symm.trans hrequest')
      exact absurd (hanswer.symm.trans hanswer') answerPlayed_ne_null
  · rintro ⟨s, hsuccess, hrel⟩
    obtain ⟨t, rfl, -, -⟩ := success?_eq_some_iff.mp hsuccess
    cases hrel with
    | some htext =>
        exact .text hrequest (hanswer.trans (answerPlayed_eq_text_iff.mpr hsuccess)) htext

/-- A message has the same outcome in texts and in memory. -/
theorem replies_iff (hheld : held.bind Playthrough.ofText? = state) {message : Message}
    {text : Option String} :
    message.Replies game held text next ↔
      ∃ s, message.inMemory? game state = some (s, next) ∧
        Option.Rel Playthrough.IsText s text := by
  cases message with
  | begin persona location => exact replies_iff_of_answerPlayed rfl rfl
  | beginRandom => exact replies_iff_of_answerPlayed rfl rfl
  | reseed seed =>
      constructor
      · rintro (⟨⟨⟩, hanswer, -⟩ | ⟨⟨⟩, hanswer⟩)
        · cases hanswer
        · cases hanswer
          exact ⟨none, rfl, .none⟩
      · rintro ⟨s, ⟨⟩, ⟨⟩⟩
        exact .nothing rfl rfl
  | play choice =>
      cases state with
      | none =>
          constructor
          · rintro (⟨hrequest, -, -⟩ | ⟨hrequest, -⟩) <;>
              simp [request?, hheld] at hrequest
          · rintro ⟨s, ⟨⟩, -⟩
      | some s =>
          have hrequest : (play choice).request? held = some (.play s choice) := by
            rw [request?, hheld]
            rfl
          exact replies_iff_of_answerPlayed hrequest (by simp [Game.answer])

end Message

namespace Game

/-- The first message is carried out, and then the others on what is held after it. -/
theorem carryOut?_cons_eq_some_iff {message : Message} {states : List Playthrough} :
    game.carryOut? state (message :: messages) = some (states, last) ↔
      ∃ s next rest, message.inMemory? game state = some (s, next) ∧
        next.carryOut? (s.or state) messages = some (rest, last) ∧ states = s.toList ++ rest := by
  simp only [carryOut?, Option.bind_eq_bind, Option.bind_eq_some_iff, Option.pure_def,
    Option.some.injEq, Prod.mk.injEq, Prod.exists]
  constructor
  · rintro ⟨s, next, hmemory, rest, last, hrest, rfl, rfl⟩
    exact ⟨s, next, rest, hmemory, hrest, rfl⟩
  · rintro ⟨s, next, rest, hmemory, hrest, rfl⟩
    exact ⟨s, next, hmemory, rest, last, hrest, rfl, rfl⟩

/-- The text that is held after a message is read as the playthrough that is held in memory. -/
theorem bind_ofText?_or {s : Option Playthrough} {text : Option String}
    (hrel : Option.Rel Playthrough.IsText s text) (hheld : held.bind Playthrough.ofText? = state) :
    (text.or held).bind Playthrough.ofText? = s.or state := by
  cases hrel with
  | none => exact hheld
  | some htext => exact htext.ofText?_eq

/-- Messages one after the other have the same outcomes in texts and in memory. -/
theorem exchanges_iff (hheld : held.bind Playthrough.ofText? = state) :
    game.Exchanges held messages texts last ↔
      ∃ states, game.carryOut? state messages = some (states, last) ∧
        List.Forall₂ Playthrough.IsText states texts := by
  induction messages generalizing game held state texts with
  | nil =>
      constructor
      · rintro ⟨⟩
        exact ⟨[], rfl, .nil⟩
      · rintro ⟨states, ⟨⟩, ⟨⟩⟩
        exact .done
  | cons message messages ih =>
      constructor
      · rintro (_ | ⟨hreply, hrest⟩)
        obtain ⟨s, hmemory, hrel⟩ := (Message.replies_iff hheld).mp hreply
        obtain ⟨states, hstates, htexts⟩ := (ih (bind_ofText?_or hrel hheld)).mp hrest
        refine ⟨s.toList ++ states,
          carryOut?_cons_eq_some_iff.mpr ⟨s, _, states, hmemory, hstates, rfl⟩, ?_⟩
        cases hrel with
        | none => exact htexts
        | some htext => exact .cons htext htexts
      · rintro ⟨states, hcarried, htexts⟩
        obtain ⟨s, next, states, hmemory, hstates, rfl⟩ := carryOut?_cons_eq_some_iff.mp hcarried
        cases s with
        | none =>
            have hrel : Option.Rel Playthrough.IsText none none := .none
            exact .message ((Message.replies_iff hheld).mpr ⟨_, hmemory, hrel⟩)
              ((ih (bind_ofText?_or hrel hheld)).mpr ⟨states, hstates, htexts⟩)
        | some s =>
            obtain ⟨text, texts, htext, hrest, rfl⟩ := List.forall₂_cons_left_iff.mp htexts
            have hrel : Option.Rel Playthrough.IsText (some s) (some text) := .some htext
            exact .message ((Message.replies_iff hheld).mpr ⟨_, hmemory, hrel⟩)
              ((ih (bind_ofText?_or hrel hheld)).mpr ⟨states, hstates, hrest⟩)

/-- A text of a playthrough is read as it, and what is written is one.  So the texts that a front
end receives are read as the playthroughs that the same messages give in memory, and the messages
succeed in texts just if they do in memory. -/
theorem playthroughs_survive_exchange :
    (∀ s : Playthrough, s.IsText s.toJson.write ∧
      ∀ text, s.IsText text → Playthrough.ofText? text = some s) ∧
    ∀ (game : Game) (messages : List Message) (texts : List String) (last : Game),
      game.Exchanges none messages texts last ↔
        ∃ states, game.carryOut? none messages = some (states, last) ∧
          List.Forall₂ (fun s text => s.IsText text ∧ Playthrough.ofText? text = some s)
            states texts := by
  refine ⟨fun s => ⟨s.isText_write_toJson, fun text h => h.ofText?_eq⟩,
    fun game messages texts last => ?_⟩
  rw [exchanges_iff rfl]
  refine exists_congr fun states => and_congr_right fun _ => ?_
  exact ⟨.imp fun s text h => ⟨h, h.ofText?_eq⟩, .imp fun s text h => h.1⟩

/-- A playthrough with names that have to be escaped, the least and the greatest amounts, a stop
without an id and values that are absent. -/
def inkblotPlaythrough : Playthrough where
  node := "quote \" backslash \\ tab \t null \x00 line \n"
  persona := "→ 🌊"
  location := ""
  stats := { PerStat.uniform (-1) with safety := Int32.minValue, resources := Int32.maxValue }
  flags := .ofList ["\x1f", "B", "A"]
  marks := .ofList ["GATE"]
  history := [⟨"FORK", some "go"⟩, ⟨"ROAD", none⟩]
  queue := ["", "KIT"]
  returnNode := some "END"
  outcome := some ""
  outcomeDescription := none
  scorecard := some ⟨-3, 5, [⟨"rule", none, some "→"⟩]⟩

/-- The sample is read back with its flags in another order; and while the player of the gate is on
a detour, each text is read as the playthrough in memory. -/
theorem survive_exchange_at_gate :
    Playthrough.ofText? (inkblotPlaythrough.toJsonListing ["B", "\x1f", "A"] ["GATE"]).write =
        some inkblotPlaythrough ∧
      ∃ states texts last,
        (gateGame Story.gateBranches).Exchanges none
          [.begin "Student" "River", .reseed 7, .play "", .play "nothing"] texts last ∧
        List.Forall₂ (fun s text => Playthrough.ofText? text = some s) states texts ∧
        states.map (fun s => (s.node, s.queue, s.returnNode, s.isFinished)) =
          [("KIT", ["SAFE"], some "END", false), ("SAFE", [], some "END", false),
            ("END", [], none, true)] := by
  constructor
  · refine (playthroughs_survive_exchange.1 inkblotPlaythrough).2 _ ?_
    exact ⟨_, _, by simp [inkblotPlaythrough, or_comm, or_left_comm], by simp [inkblotPlaythrough],
      rfl⟩
  · have hrun : ((gateGame Story.gateBranches).carryOut? none
        [.begin "Student" "River", .reseed 7, .play "", .play "nothing"]).map
        (fun run => run.1.map fun s => (s.node, s.queue, s.returnNode, s.isFinished)) =
        some [("KIT", ["SAFE"], some "END", false), ("SAFE", [], some "END", false),
          ("END", [], none, true)] := by
      decide +kernel
    obtain ⟨⟨states, last⟩, hstates, hshown⟩ := Option.map_eq_some_iff.mp hrun
    have htexts : List.Forall₂ (fun s text => s.IsText text ∧ Playthrough.ofText? text = some s)
        states (states.map fun s => s.toJson.write) := by
      rw [List.forall₂_map_right_iff, List.forall₂_same]
      intro s _
      have htext := (playthroughs_survive_exchange.1 s).1
      exact ⟨htext, (playthroughs_survive_exchange.1 s).2 _ htext⟩
    refine ⟨states, _, last, (playthroughs_survive_exchange.2 _ _ _ last).mpr
      ⟨states, hstates, htexts⟩, htexts.imp fun s text h => h.2, hshown⟩

end Game
end BranchingStory
