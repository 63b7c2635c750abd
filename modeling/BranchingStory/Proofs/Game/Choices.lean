import BranchingStory.Play.View
import BranchingStory.Proofs.Game.Runs
import BranchingStory.Proofs.Play.Idling

/-!
# Choices as shown

At a decision the player is shown every choice with its id and its lock, and chooses by the id.  The
view goes through the choices by their places; the game looks the id up again and takes the first
choice that has it.  So what is shown at a place is what happens if the first choice of that id has
the same lock and leads to the same, and only then: an open choice never leaves the playthrough as
it is.  Where no earlier choice has the id, the first choice of that id is the one that is shown.

Main results:

- `Game.value_respond_shown`: choosing by an id that is shown takes the first choice of that id.
- `Game.actsAsShown_iff`: when a choice does what is shown.
- `Game.acts_as_shown`: the same for all places of a view.
-/

namespace BranchingStory
namespace Game

variable {game : Game} {s : Playthrough} {text : NodeText} {choices : List Choice}
  {choice first : Choice} {i : Nat}

/-- What is shown of a choice is what the game does: by the id that is shown the player takes this
choice if it is shown open, and changes nothing if it is shown locked. -/
def ActsAsShown (game : Game) (s : Playthrough) (shown : ChoiceView) (choice : Choice) : Prop :=
  ∀ source, (game.respond source s (.byId (some shown.id))).value.result =
    if shown.locked then .ok s else (game.respond source s (.inHand (some choice))).value.result

/-- One choice does for another: it has the same lock, and if they are open the same comes of
both. -/
def StandsFor (game : Game) (s : Playthrough) (first choice : Choice) : Prop :=
  first.isOpenTo s = choice.isOpenTo s ∧
    (choice.isOpenTo s = true → ∀ source,
      (game.respond source s (.inHand (some first))).value.result =
        (game.respond source s (.inHand (some choice))).value.result)

/-! ## Choosing at a decision -/

/-- At a decision the player is shown all its choices in their order. -/
theorem view_of_decision (hnode : game.story.node? s.node = some (.decision text choices)) :
    game.story.view s =
      .decision s.node (Story.shownText s text) (choices.map (Story.shownChoice s)) := by
  simp only [Story.view, hnode]

/-- Choosing by an id takes the first choice that has it. -/
theorem value_respond_shown (hnode : game.story.node? s.node = some (.decision text choices))
    {id : String} (hfirst : choices.find? (fun other => other.id == id) = some first)
    (source : Source) :
    (game.respond source s (.byId (some id))).value =
      (game.respond source s (.inHand (some first))).value := by
  have hmeant : game.choiceMeant s (.byId (some id)) =
      game.choiceMeant s (.inHand (some first)) := by
    simp only [choiceMeant, hnode, Option.bind_some, Node.choices, hfirst]
  rw [value_respond, value_respond, hmeant]

/-- A choice in hand is rejected at a decision exactly if it is locked. -/
theorem respond_eq_self_iff (hnode : game.story.node? s.node = some (.decision text choices))
    (hqueue : s.queue = []) (source : Source) :
    (game.respond source s (.inHand (some choice))).value.result = .ok s ↔
      choice.isOpenTo s = false := by
  rw [respond_eq_ok_iff, Story.result_act_eq_self_iff]
  constructor
  · intro hidle
    cases hidle with
    | rejected _ _ hchosen hclosed =>
        cases hchosen
        exact hclosed
    | nowhere h => rw [hnode] at h; cases h
    | lostStop _ h _ => rw [hqueue] at h; cases h
    | ending h _ _ _ => rw [hnode] at h; cases h
    | undecided _ _ h => cases h
    | notWaiting h _ hwaits =>
        rw [hnode] at h
        cases h
        cases hwaits
  · intro hclosed
    exact .rejected hnode hqueue rfl hclosed

/-- A choice does what is shown exactly if the first choice of its id does for it. -/
theorem actsAsShown_iff (hnode : game.story.node? s.node = some (.decision text choices))
    (hqueue : s.queue = [])
    (hfirst : choices.find? (fun other => other.id == choice.id) = some first) :
    game.ActsAsShown s (Story.shownChoice s choice) choice ↔ game.StandsFor s first choice := by
  have hacts : game.ActsAsShown s (Story.shownChoice s choice) choice ↔
      ∀ source, (game.respond source s (.inHand (some first))).value.result =
        if !choice.isOpenTo s then .ok s
        else (game.respond source s (.inHand (some choice))).value.result :=
    forall_congr' fun source => by rw [← value_respond_shown hnode hfirst source]; rfl
  rw [hacts]
  unfold StandsFor
  cases hopen : choice.isOpenTo s with
  | false =>
      simp only [Bool.not_false, if_true, respond_eq_self_iff hnode hqueue, Bool.false_eq_true,
        false_implies, and_true]
      exact ⟨fun h => h (.scripted []), fun h _ => h⟩
  | true =>
      simp only [Bool.not_true, Bool.false_eq_true, if_false, true_implies, iff_and_self]
      intro hsame
      rw [← Bool.not_eq_false]
      intro hclosed
      -- A locked first choice would make the open one leave the playthrough as it is.
      have hself := (respond_eq_self_iff hnode hqueue (.scripted [])).mpr hclosed
      rw [hsame, respond_eq_self_iff hnode hqueue, hopen] at hself
      cases hself

/-- A choice whose id no earlier choice has is the first of its id. -/
theorem find?_eq_of_new (hchoice : choices[i]? = some choice)
    (hnew : ∀ other ∈ choices.take i, other.id ≠ choice.id) :
    choices.find? (fun other => other.id == choice.id) = some choice := by
  obtain ⟨hi, rfl⟩ := List.getElem?_eq_some_iff.mp hchoice
  rw [List.find?_eq_some_iff_append]
  refine ⟨beq_self_eq_true _, choices.take i, choices.drop (i + 1), ?_, ?_⟩
  · rw [← List.drop_eq_getElem_cons hi, List.take_append_drop]
  · intro other hother
    simpa using hnew other hother

/-! ## What is shown at a decision -/

/-- At a decision without pending stops the player is shown all choices.  What is shown at a place
is what the game does exactly if the first choice of the id that is shown there does for the choice
at this place; so it is whenever no earlier choice has this id. -/
theorem acts_as_shown (hnode : game.story.node? s.node = some (.decision text choices))
    (hqueue : s.queue = []) :
    ∃ body shown, game.story.view s = .decision s.node body shown ∧
      shown.length = choices.length ∧
      ∀ i option choice, shown[i]? = some option → choices[i]? = some choice →
        (∃ first, choices.find? (fun other => other.id == option.id) = some first ∧
          (game.ActsAsShown s option choice ↔ game.StandsFor s first choice)) ∧
        ((∀ other ∈ choices.take i, other.id ≠ option.id) → game.ActsAsShown s option choice) := by
  refine ⟨_, _, view_of_decision hnode, List.length_map _, ?_⟩
  intro i option choice hshown hchoice
  rw [List.getElem?_map, hchoice, Option.map_some, Option.some.injEq] at hshown
  subst hshown
  constructor
  · have hsome : (choices.find? fun other => other.id == choice.id).isSome = true :=
      List.find?_isSome.mpr ⟨choice, List.mem_of_getElem? hchoice, beq_self_eq_true _⟩
    obtain ⟨first, hfirst⟩ := Option.isSome_iff_exists.mp hsome
    exact ⟨first, hfirst, actsAsShown_iff hnode hqueue hfirst⟩
  · intro hnew
    rw [actsAsShown_iff hnode hqueue (find?_eq_of_new hchoice hnew)]
    exact ⟨rfl, fun _ _ => rfl⟩

/-- A way from the fork: by boat it takes a boat, on foot nothing. -/
def forkChoice (id : String) (requiredFlag : Option String) (next : String) : Choice where
  id := id
  label := next
  requiredFlag := requiredFlag
  gates := ∅
  adjustment := .none
  flagList := none
  chances := []
  personaEffects := ∅
  next := next

/-- A game at a fork, where the second way has the given id and the first has the id `go`. -/
def forkGame (id : String) : Game where
  story := .plain
    [("FORK", .decision ⟨none, ∅, ∅⟩
        [forkChoice "go" (some "BOAT") "RIVER", forkChoice id none "ROAD"]),
      ("RIVER", .narrative ⟨none, ∅, ∅⟩ none none),
      ("ROAD", .narrative ⟨none, ∅, ∅⟩ none none)] []
  settings := { startNode := "FORK", maxHops := 1 }
  source := .scripted []

/-- The beginning of the game at the fork. -/
def atFork : Playthrough :=
  .start "FORK" "Student" "River" (.uniform 0)

/-- The game begins at the fork. -/
theorem begin_forkGame :
    ((forkGame "go").begin "Student" "River").value.toOption = some atFork := by
  decide +kernel

/-- With ids of their own the way by boat is shown locked and nothing comes of it, and the way on
foot is shown open and taken. -/
theorem acts_as_shown_at_fork :
    ∃ body, (forkGame "walk").story.view atFork =
        .decision "FORK" body [⟨"go", "RIVER", true⟩, ⟨"walk", "ROAD", false⟩] ∧
      ∀ source,
        ((forkGame "walk").respond source atFork (.byId (some "go"))).value.result = .ok atFork ∧
        (((forkGame "walk").respond source atFork (.byId (some "walk"))).value.result.map
          Playthrough.node) = .ok "ROAD" := by
  have hnode : (forkGame "walk").story.node? atFork.node = some (.decision ⟨none, ∅, ∅⟩
      [forkChoice "go" (some "BOAT") "RIVER", forkChoice "walk" none "ROAD"]) := rfl
  obtain ⟨body, shown, hview, -, hacts⟩ := acts_as_shown hnode rfl
  have hshown : shown = [⟨"go", "RIVER", true⟩, ⟨"walk", "ROAD", false⟩] :=
    (View.decision.inj hview).2.2.symm
  subst hshown
  refine ⟨body, hview, fun source => ⟨?_, ?_⟩⟩
  · exact (hacts 0 _ _ rfl rfl).2 nofun source
  · have hwalks := (hacts 1 _ _ rfl rfl).2 (by decide) source
    rw [hwalks]
    rfl

/-- Not every choice does what is shown: if both ways have one id, the way on foot is shown open,
but nothing comes of choosing it. -/
theorem not_always_acts_as_shown :
    ¬ ∀ (doc : Document) (game : Game), Story.ofDocument? doc = .ok game.story →
      ∀ s, game.Reachable (fun action => action.isById = true) s → s.queue = [] →
        ∀ text choices, game.story.node? s.node = some (.decision text choices) →
          ∀ node body shown, game.story.view s = .decision node body shown →
            ∀ (i : Nat) (option : ChoiceView) (choice : Choice), shown[i]? = some option →
              choices[i]? = some choice → game.ActsAsShown s option choice := by
  intro h
  have hreachable : (forkGame "go").Reachable (fun action => action.isById = true) atFork :=
    .begun (toOption_eq_some_iff.mp begin_forkGame)
  have hacts := h _ _ (Story.ofDocument?_plain _ _) atFork hreachable rfl _ _ rfl _ _ _ rfl 1 _ _
    rfl rfl (.scripted [])
  have hnode := congrArg (fun result => result.toOption.map Playthrough.node) hacts
  exact absurd hnode (by decide)

end Game
end BranchingStory
