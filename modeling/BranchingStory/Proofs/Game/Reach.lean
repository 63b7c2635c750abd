import BranchingStory.Proofs.Game.Runs
import BranchingStory.Proofs.Play.Reach
import BranchingStory.Proofs.Story.Plain

/-!
# Where a game can come

The lint warns of the nodes to which no ways on lead from the start.  It is right about the graph,
and about play: whatever the player does by id, and whatever is drawn, no playthrough is at such a
node, has it for a stop, or goes on at it.

Main results:

- `Game.inReach_of_reachable`: ways on lead from the start to all that a playthrough holds.
- `Game.warns_iff_out_of_reach`: the warnings are exact for the graph and right for play.
-/

namespace BranchingStory
namespace Game

variable {game : Game} {s : Playthrough}

/-- Ways on lead from the start to all that a playthrough holds. -/
theorem inReach_of_reachable (h : game.Reachable (fun action => action.isById = true) s) :
    game.story.InReach game.settings.startNode s := by
  refine Reachable.invariant (P := game.story.InReach game.settings.startNode) ?_ ?_ h
  · intro persona location ofPersona ofLocation s _ _ harrive
    exact Story.inReach_of_arrive harrive ⟨.refl, nofun, nofun⟩
  · intro s s' action source hs hid hact
    have hchoice : ∀ chosen, game.choiceMeant s action = some chosen →
        ∃ node, game.story.node? s.node = some node ∧ chosen ∈ node.choices :=
      fun chosen => exists_node_of_choiceMeant hid
    exact Story.inReach_of_act hact hchoice hs

/-- A report warns of exactly the nodes to which no ways on lead from the start, and a playthrough
never holds one of them: what it holds is no node at all or is in reach. -/
theorem warns_iff_out_of_reach (hstart : game.story.Has game.settings.startNode) :
    (∀ id,
      "Node '" ++ id ++ "' is unreachable from '" ++ game.settings.startNode ++ "'"
          ∈ (game.story.lintReport game.settings.startNode).warnings ↔
        game.story.Has id ∧ ¬ game.story.PathTo game.settings.startNode id) ∧
    ∀ s, game.Reachable (fun action => action.isById = true) s →
      ∀ id, id = s.node ∨ id ∈ s.queue ∨ s.returnNode = some id →
        ¬ game.story.Has id ∨
          "Node '" ++ id ++ "' is unreachable from '" ++ game.settings.startNode ++ "'"
            ∉ (game.story.lintReport game.settings.startNode).warnings := by
  refine ⟨fun id => Story.unreachable_mem_warnings_iff hstart, fun s hs id hid => Or.inr ?_⟩
  have hreach := inReach_of_reachable hs
  have hpath : game.story.PathTo game.settings.startNode id := by
    rcases hid with rfl | hqueue | hreturn
    · exact hreach.node
    · exact hreach.queue id hqueue
    · exact hreach.returnNode id hreturn
  exact fun hwarned => ((Story.unreachable_mem_warnings_iff hstart).mp hwarned).2 hpath

/-! ## A game that gets lost -/

/-- From the hall an excursion leads to an id that is no node, and back past a room.  A cave and a
well lead to each other and to the hall, but nothing leads to them. -/
def lostNodes : List (String × Node) :=
  [("CAVE", .decision ⟨none, ∅, ∅⟩ [⟨"down", "Down", none, ∅, .none, none, [], ∅, "WELL"⟩,
      ⟨"out", "Out", none, ∅, .none, none, [], ∅, "HALL"⟩]),
    ("HALL", .fanout [⟨some "S < 1", "LOST", .none⟩] "ROOM"),
    ("ROOM", .narrative ⟨none, ∅, ∅⟩ (some "HALL") none),
    ("WELL", .narrative ⟨none, ∅, ∅⟩ (some "CAVE") none)]

/-- A game that begins in the hall. -/
def lostGame : Game where
  story := .plain lostNodes []
  settings := { startNode := "HALL", maxHops := 4 }
  source := .scripted []

/-- Only the room can be reached from the hall. -/
theorem reachable_lostGame : lostGame.story.reachable "HALL" = ["ROOM", "HALL"] := by
  have hkeys : lostGame.story.nodes.keys = ["CAVE", "HALL", "ROOM", "WELL"] := by decide
  have hhall : lostGame.story.successors "HALL" = ["LOST", "ROOM"] := by decide
  have hroom : lostGame.story.successors "ROOM" = ["HALL"] := by decide
  simp [Story.reachable, Story.explore, hkeys, hhall, hroom]

/-- The report on the lost game warns of the cave, though it leads to the start and is on a cycle.
A playthrough gets to the id that is no node, and will go on at the room, of which there is no
warning. -/
theorem warns_of_lostGame :
    "Node 'CAVE' is unreachable from 'HALL'" ∈ (lostGame.story.lintReport "HALL").warnings ∧
      ∃ s, lostGame.Reachable (fun action => action.isById = true) s ∧
        s.node = "LOST" ∧ ¬ lostGame.story.Has "LOST" ∧ s.returnNode = some "ROOM" ∧
        "Node 'ROOM' is unreachable from 'HALL'"
          ∉ (lostGame.story.lintReport "HALL").warnings := by
  have hstart : lostGame.story.Has lostGame.settings.startNode := ⟨_, rfl⟩
  obtain ⟨hwarns, hsound⟩ := warns_iff_out_of_reach hstart
  have hcave : "CAVE" ∉ lostGame.story.reachable "HALL" := by
    rw [reachable_lostGame]
    decide
  have hpath : ¬ lostGame.story.PathTo "HALL" "CAVE" :=
    fun hpath => hcave (Story.mem_reachable_iff.mpr ⟨⟨_, rfl⟩, hpath⟩)
  have hbegin : (lostGame.begin "Student" "River").value.toOption.map
      (fun s => (s.node, s.returnNode)) = some ("LOST", some "ROOM") := by
    decide +kernel
  obtain ⟨s, hs, hheld⟩ := exists_reachable_of_begin (fun action => action.isById = true) hbegin
  obtain ⟨hnode, hreturn⟩ := Prod.mk.inj hheld
  have hroom : lostGame.story.Has "ROOM" := ⟨_, rfl⟩
  have hlost : ¬ lostGame.story.Has "LOST" := by
    rintro ⟨node, hsome⟩
    cases hsome
  exact ⟨(hwarns "CAVE").mpr ⟨⟨_, rfl⟩, hpath⟩, s, hs, hnode, hlost, hreturn,
    (hsound s hs "ROOM" (Or.inr (Or.inr hreturn))).resolve_left (not_not_intro hroom)⟩

end Game
end BranchingStory
