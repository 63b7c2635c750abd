import BranchingStory.Play.View
import BranchingStory.Proofs.Game.Runs
import BranchingStory.Proofs.Play.Resting
import BranchingStory.Proofs.Story.Plain

/-!
# Games of a linted story

What the lint promises of a whole game.  If it clears a story for play, a game begins for everybody
everywhere, no action by id ever fails, and the player always sees a narrative, a decision or a
scored outcome.  If it finds nothing at all, the player can also continue from every narrative.

Main results:

- `Game.atRest_of_reachable`: where the playthroughs of a game rest.
- `Game.plays_of_clearsPlay`: a game of a story that the lint clears is played to its end.
-/

namespace BranchingStory
namespace Story

variable {story : Story} {s : Playthrough}

/-- The player sees a narrative, a decision or an outcome with its scorecard. -/
structure IsShown (story : Story) (s : Playthrough) : Prop where
  notMissing : ∀ id, story.view s ≠ .missing id
  notStalled : ∀ id, story.view s ≠ .stalled id
  scored : ∀ {id text outcome description scorecard skill},
    story.view s = .outcome id text outcome description scorecard skill → scorecard.isSome = true

/-- A playthrough that waits or has ended is shown. -/
theorem WaitsOrEnds.isShown (h : story.WaitsOrEnds s) : story.IsShown s := by
  rcases h with ⟨node, hnode, hwaits⟩ | ⟨⟨text, hnode⟩, hfinished⟩
  · cases node with
    | narrative text next nextByLocation => constructor <;> simp [view, hnode]
    | decision text choices => constructor <;> simp [view, hnode]
    | router branches fallback => cases hwaits
    | fanout branches resume => cases hwaits
    | outcome text => cases hwaits
  · constructor
    · simp [view, hnode]
    · simp [view, hnode]
    · intro id shown outcome description scorecard skill hview
      simp only [view, hnode, View.outcome.injEq] at hview
      obtain ⟨-, -, -, -, rfl, -⟩ := hview
      exact hfinished

end Story

namespace Game

variable {game : Game} {s s' : Playthrough} {persona location : String}
  {ofPersona ofLocation : Adjustment} {action : PlayerAction} {source : Source}

/-- A playthrough opens on course. -/
theorem onCourse_opening (hstart : game.story.Has game.settings.startNode)
    (hlocation : game.story.locations.get? location = some ofLocation) :
    game.story.OnCourse (game.opening persona location ofPersona ofLocation) where
  node := hstart
  queue := nofun
  returnNode := nofun
  location := Table.mem_keys_iff.mpr (by simp [opening, Playthrough.start, hlocation])

/-- A choice that is meant by its id leads to a node. -/
theorem has_next_of_choiceMeant {choice : Choice} (hplay : game.story.Playable)
    (hid : action.isById = true) (h : game.choiceMeant s action = some choice) :
    game.story.Has choice.next := by
  obtain ⟨node, hnode, hchoice⟩ := exists_node_of_choiceMeant hid h
  exact (hplay.successors hnode (Node.next_mem_successors hchoice)).2

/-- If the start is a node of a playable story, every playthrough rests. -/
theorem atRest_of_reachable (hplay : game.story.Playable)
    (hstart : game.story.Has game.settings.startNode)
    (h : game.Reachable (fun action => action.isById = true) s) : game.story.AtRest s := by
  refine Reachable.invariant (P := game.story.AtRest) ?_ ?_ h
  · intro persona location ofPersona ofLocation s _ hlocation harrive
    exact Story.atRest_of_arrive hplay harrive (onCourse_opening hstart hlocation)
  · intro s s' action source hs hid hact
    exact Story.atRest_of_act hplay hact
      (fun choice hchoice => has_next_of_choiceMeant hplay hid hchoice) hs

/-- A game begins for every persona at every location. -/
theorem exists_begin (hplay : game.story.Playable)
    (hlimit : game.story.routerIds.length ≤ game.settings.maxHops)
    (hpersona : persona ∈ game.story.personas.keys)
    (hlocation : location ∈ game.story.locations.keys) :
    ∃ s, (game.begin persona location).value = .ok s := by
  obtain ⟨ofPersona, hpersona⟩ := Option.isSome_iff_exists.mp (Table.mem_keys_iff.mp hpersona)
  obtain ⟨ofLocation, hlocation⟩ := Option.isSome_iff_exists.mp (Table.mem_keys_iff.mp hlocation)
  obtain ⟨s, hs⟩ := Story.exists_arrive hplay.cycles hlimit
    (game.opening persona location ofPersona ofLocation)
  exact ⟨s, begin_eq_ok_iff.mpr ⟨ofPersona, ofLocation, hpersona, hlocation, hs⟩⟩

/-- An action never fails. -/
theorem exists_respond (hplay : game.story.Playable)
    (hlimit : game.story.routerIds.length ≤ game.settings.maxHops) (source : Source)
    (s : Playthrough) (action : PlayerAction) :
    ∃ s', (game.respond source s action).value.result = .ok s' := by
  obtain ⟨s', hs'⟩ :=
    Story.exists_act hplay hlimit s (game.choiceMeant s action) source
  exact ⟨s', respond_eq_ok_iff.mpr hs'⟩

/-- A game of a story that the lint clears is played to its end: it begins for everybody everywhere,
every action by id gives a playthrough, and every playthrough waits for the player or has ended
with a scorecard.  After a clean report a narrative is never continued in vain. -/
theorem plays_of_clearsPlay
    (hreport : (game.story.lintReport game.settings.startNode).ClearsPlay)
    (hlimit : game.story.routerIds.length ≤ game.settings.maxHops) :
    (∀ persona ∈ game.story.personas.keys, ∀ location ∈ game.story.locations.keys,
      ∃ s, (game.begin persona location).value = .ok s) ∧
    (∀ s, game.Reachable (fun action => action.isById = true) s →
      game.story.WaitsOrEnds s ∧ game.story.IsShown s ∧
        ∀ id source, ∃ s', (game.respond source s (.byId id)).value.result = .ok s') ∧
    ((game.story.lintReport game.settings.startNode).isClean = true →
      ∀ s, game.Reachable (fun action => action.isById = true) s →
        ∀ text next nextByLocation,
          game.story.node? s.node = some (.narrative text next nextByLocation) →
          ∀ id source s', (game.respond source s (.byId id)).value.result = .ok s' → s' ≠ s) := by
  have hplay := Story.playable_of_clearsPlay hreport
  have hstart := Story.has_start_of_clearsPlay hreport
  refine ⟨fun persona hpersona location hlocation => ?_, fun s hs => ?_, ?_⟩
  · exact exists_begin hplay hlimit hpersona hlocation
  · have hrest := atRest_of_reachable hplay hstart hs
    exact ⟨hrest.rests, hrest.rests.isShown,
      fun id source => exists_respond hplay hlimit source s _⟩
  · intro hclean s hs text next nextByLocation hnode id source s' hrespond
    have hcourse := (atRest_of_reachable hplay hstart hs).toOnCourse
    have hnext := Story.successor?_ne_none_of_isClean hclean hnode hcourse.location
    exact Story.ne_of_act_narrative (respond_eq_ok_iff.mp hrespond) hcourse hnode hnext

/-! ## A story without findings -/

/-- The nodes of one day: some get advice first, those who are safe are done, and the others are
asked. -/
def guidedNodes : List (String × Node) :=
  [("ASK", .decision ⟨none, ∅, ∅⟩ [⟨"go", "Go", none, ∅, .none, none, [], ∅, "END"⟩]),
    ("END", .outcome ⟨none, ∅, ∅⟩),
    ("GATE", .fanout [⟨some "S < 1", "TIP", .none⟩] "SPLIT"),
    ("SPLIT", .router [⟨some "S > 1", "END", .none⟩] (some "ASK")),
    ("TIP", .narrative ⟨none, ∅, ∅⟩ (some "SPLIT") none)]

/-- A game of that day from its gate on. -/
def guidedGame : Game where
  story := .plain guidedNodes [⟨"S > 0", 1, "Safe", none⟩]
  settings := { startNode := "GATE", maxHops := 2 }
  source := .scripted []

/-- All nodes can be reached from the gate. -/
theorem reachable_guidedGame :
    guidedGame.story.reachable "GATE" = ["ASK", "END", "SPLIT", "TIP", "GATE"] := by
  have hkeys : guidedGame.story.nodes.keys = ["ASK", "END", "GATE", "SPLIT", "TIP"] := by decide
  have hgate : guidedGame.story.successors "GATE" = ["TIP", "SPLIT"] := by decide
  have htip : guidedGame.story.successors "TIP" = ["SPLIT"] := by decide
  have hsplit : guidedGame.story.successors "SPLIT" = ["END", "ASK"] := by decide
  have hask : guidedGame.story.successors "ASK" = ["END"] := by decide
  have hend : guidedGame.story.successors "END" = [] := by decide
  simp [Story.reachable, Story.explore, hkeys, hgate, htip, hsplit, hask, hend]

/-- The lint finds nothing. -/
theorem lint_guidedGame : guidedGame.story.lint "GATE" = [] := by
  have hreachable : guidedGame.story.checkReachable "GATE" = [] := by
    unfold Story.checkReachable
    rw [reachable_guidedGame]
    rfl
  rw [Story.lint, hreachable]
  rfl

/-- The guided game begins with the advice, which can be continued, and goes on from there. -/
theorem plays_of_guidedGame :
    (guidedGame.story.lintReport "GATE").isClean = true ∧
      guidedGame.story.routerIds.length ≤ 2 ∧
      ∃ s, (guidedGame.begin "Student" "River").value = .ok s ∧ s.node = "TIP" ∧
        guidedGame.story.IsShown s ∧
        ∀ id source, ∃ s', (guidedGame.respond source s (.byId id)).value.result = .ok s' ∧
          s' ≠ s := by
  have hreport : guidedGame.story.lintReport guidedGame.settings.startNode = ⟨[], []⟩ := by
    rw [Story.lintReport, show guidedGame.settings.startNode = "GATE" from rfl, lint_guidedGame]
    rfl
  have hclean : (guidedGame.story.lintReport "GATE").isClean = true := by
    rw [show guidedGame.story.lintReport "GATE" = ⟨[], []⟩ from hreport]
    rfl
  have hclears : (guidedGame.story.lintReport guidedGame.settings.startNode).ClearsPlay := by
    rw [hreport]
    exact ⟨rfl, fun _ => List.not_mem_nil, fun _ _ => List.not_mem_nil⟩
  have hlimit : guidedGame.story.routerIds.length ≤ guidedGame.settings.maxHops := by decide
  obtain ⟨hbegin, hplays, hcontinues⟩ := plays_of_clearsPlay hclears hlimit
  obtain ⟨s, hs⟩ := hbegin "Student" (by decide) "River" (by decide)
  obtain ⟨-, hshown, hrespond⟩ := hplays s (.begun hs)
  have hnode : s.node = "TIP" := by
    have hfirst : (guidedGame.begin "Student" "River").value.map Playthrough.node = .ok "TIP" := by
      decide +kernel
    rw [hs] at hfirst
    exact Except.ok.inj hfirst
  refine ⟨hclean, hlimit, s, hs, hnode, hshown, fun id source => ?_⟩
  obtain ⟨s', hs'⟩ := hrespond id source
  exact ⟨s', hs', hcontinues hclean s (.begun hs) _ _ _ (by rw [hnode]; rfl) id source s' hs'⟩

end Game
end BranchingStory
