import BranchingStory.Proofs.Game.Choices
import BranchingStory.Terminal.Session

/-!
# Choosing at the terminal

At a decision the player types the id of a choice that is listed, or its position counted from one.
Ids are authored freely, so an argument can be both, the id of one choice and the position of
another.  An argument is meant as an id if it is one.  The session tries positions first: it goes by
what is meant unless the id is shadowed, that is, unless it also reads as the position of a choice
with another id.

Main results:

- `View.choiceAt?_eq_some_iff`: the choice at the position that an argument reads as.
- `View.means_selectedId_iff`: an argument selects what it means unless it is shadowed.
- `Session.chooses_as_meant_iff`: what comes of a line, and when each listed id can be typed.
- `Session.not_always_chooses_as_meant`: an id can be shadowed.
-/

namespace BranchingStory

/-! ## What is meant -/

namespace View

variable {view : View} {argument id : String} {choice : ChoiceView}

/-- A choice with this id is listed. -/
def Lists (view : View) (id : String) : Prop :=
  ∃ choice ∈ view.choices, choice.id = id

/-- An argument reads as the position of a choice, counted from one. -/
def Places (view : View) (argument : String) (choice : ChoiceView) : Prop :=
  ∃ word, wordOfText? argument = some word ∧ 1 ≤ word.toNat ∧
    view.choices[word.toNat - 1]? = some choice

/-- The id that an argument means: itself if a choice with this id is listed, else the id of the
choice at the position that it reads as, else itself. -/
inductive Means (view : View) (argument : String) : String → Prop
  | id (hlisted : view.Lists argument) : Means view argument argument
  | position {choice : ChoiceView} (hother : ¬ view.Lists argument)
      (hplace : view.Places argument choice) : Means view argument choice.id
  | unknown (hother : ¬ view.Lists argument)
      (hout : ∀ word, wordOfText? argument = some word →
        word.toNat < 1 ∨ view.choices.length < word.toNat) : Means view argument argument

/-- An id that is listed also reads as the position of a choice with another id. -/
def IsShadowed (view : View) (id : String) : Prop :=
  view.Lists id ∧ ∃ choice, view.Places id choice ∧ choice.id ≠ id

theorem Means.eq_of_lists (h : view.Means argument id) (hlisted : view.Lists argument) :
    id = argument := by
  cases h with
  | id _ => rfl
  | position hother _ => exact absurd hlisted hother
  | unknown _ _ => rfl

/-! ## What is selected -/

/-- The choice at the position that an argument reads as. -/
theorem choiceAt?_eq_some_iff :
    view.choiceAt? argument = some choice ↔ view.Places argument choice := by
  unfold choiceAt? Places
  cases hword : wordOfText? argument with
  | none => simp
  | some word =>
      simp only [Option.map_some, Option.some.injEq, exists_eq_left']
      cases hnumber : word.toNat with
      | zero => simp
      | succ n => simp

/-- No choice is at the position that an argument reads as if the position is out of range. -/
theorem choiceAt?_eq_none_iff :
    view.choiceAt? argument = none ↔ ∀ word, wordOfText? argument = some word →
      word.toNat < 1 ∨ view.choices.length < word.toNat := by
  unfold choiceAt?
  cases hword : wordOfText? argument with
  | none => simp
  | some word =>
      simp only [Option.map_some, Option.some.injEq, forall_eq']
      cases hnumber : word.toNat with
      | zero => simp
      | succ n =>
          rw [List.getElem?_eq_none_iff]
          omega

/-- A position in range wins, whatever ids are listed. -/
theorem selectedId_of_places (h : view.Places argument choice) :
    view.selectedId argument = choice.id := by
  rw [selectedId, choiceAt?_eq_some_iff.mpr h]
  rfl

/-- An argument selects what it means unless it is shadowed. -/
theorem means_selectedId_iff :
    view.Means argument (view.selectedId argument) ↔ ¬ view.IsShadowed argument := by
  constructor
  · rintro hmeans ⟨hlisted, choice, hplace, hne⟩
    rw [selectedId_of_places hplace] at hmeans
    exact hne (hmeans.eq_of_lists hlisted)
  · intro hfree
    cases hplace : view.choiceAt? argument with
    | none =>
        have hself : view.selectedId argument = argument := by rw [selectedId, hplace]; rfl
        rw [hself]
        by_cases hlisted : view.Lists argument
        · exact .id hlisted
        · exact .unknown hlisted (choiceAt?_eq_none_iff.mp hplace)
    | some choice =>
        rw [choiceAt?_eq_some_iff] at hplace
        rw [selectedId_of_places hplace]
        by_cases hlisted : view.Lists argument
        · have hsame : choice.id = argument := by
            by_contra hne
            exact hfree ⟨hlisted, choice, hplace, hne⟩
          rw [hsame]
          exact .id hlisted
        · exact .position hlisted hplace

end View

/-! ## What comes of a line -/

namespace Session

/-- A line that begins with `choose` and an argument plays the id that the argument selects.  This
is the id at the position that the argument reads as, if there is one.  It is what the argument
means exactly if the argument is not shadowed; so a listed id that is typed is played exactly if it
is not shadowed. -/
theorem chooses_as_meant_iff (session : Session) (argument : String) :
    let id := session.view.selectedId argument
    (∀ line rest, words line = "choose" :: argument :: rest →
      session.step line =
        session.follow (session.game.playById session.state (some id)).value) ∧
    (∀ choice, session.view.Places argument choice → id = choice.id) ∧
    (session.view.Means argument id ↔ ¬ session.view.IsShadowed argument) ∧
    (session.view.Lists argument → (id = argument ↔ ¬ session.view.IsShadowed argument)) := by
  refine ⟨?_, fun choice => View.selectedId_of_places, View.means_selectedId_iff, ?_⟩
  · intro line rest hline
    simp only [step, Command.ofLine?, hline]
    rfl
  · intro hlisted
    rw [← View.means_selectedId_iff]
    constructor
    · intro hself
      rw [hself]
      exact .id hlisted
    · intro hmeans
      exact hmeans.eq_of_lists hlisted

/-- The session at a fork where the way on foot is listed second and has the id `1`. -/
def atNumberedFork : Session where
  game := Game.forkGame "1"
  state := Game.atFork

/-- At this fork the way on foot can be typed as `2`, but not by its id: that is the position of the
way by boat. -/
theorem chooses_as_meant_at_fork :
    words "choose 2\n" = ["choose", "2"] ∧
      atNumberedFork.step "choose 2\n" = atNumberedFork.follow
        (atNumberedFork.game.playById atNumberedFork.state (some "1")).value ∧
      atNumberedFork.view.Means "2" "1" ∧
      atNumberedFork.view.Lists "1" ∧ atNumberedFork.view.selectedId "1" = "go" ∧
      atNumberedFork.view.IsShadowed "1" := by
  have hwords : words "choose 2\n" = ["choose", "2"] := by decide +kernel
  have hsecond : atNumberedFork.view.selectedId "2" = "1" := by decide +kernel
  have hfirst : atNumberedFork.view.selectedId "1" = "go" := by decide +kernel
  have hlisted : atNumberedFork.view.Lists "1" := ⟨⟨"1", "ROAD", false⟩, by decide +kernel, rfl⟩
  have hfree : ¬ atNumberedFork.view.IsShadowed "2" := by
    rintro ⟨⟨choice, hchoice, hid⟩, -⟩
    have hother : ∀ choice ∈ atNumberedFork.view.choices, choice.id ≠ "2" := by decide +kernel
    exact hother choice hchoice hid
  obtain ⟨hstep, -, hmeans, -⟩ := chooses_as_meant_iff atNumberedFork "2"
  obtain ⟨-, -, -, htyped⟩ := chooses_as_meant_iff atNumberedFork "1"
  rw [hsecond] at hstep hmeans
  refine ⟨hwords, hstep _ _ hwords, hmeans.mpr hfree, hlisted, hfirst, ?_⟩
  by_contra hshadowed
  exact absurd (hfirst.symm.trans ((htyped hlisted).mpr hshadowed)) (by decide)

/-- Not every argument selects what it means: an id can be shadowed by a position. -/
theorem not_always_chooses_as_meant :
    ¬ ∀ (doc : Document) (session : Session), Story.ofDocument? doc = .ok session.game.story →
      ∀ node body shown, session.view = .decision node body shown →
        ∀ argument, session.view.Means argument (session.view.selectedId argument) := by
  intro h
  have hmeans := h _ atNumberedFork (Story.ofDocument?_plain _ _) _ _ _ rfl "1"
  have hlisted : atNumberedFork.view.Lists "1" := ⟨⟨"1", "ROAD", false⟩, by decide +kernel, rfl⟩
  have hself := hmeans.eq_of_lists hlisted
  exact absurd hself (by decide +kernel)

end Session
end BranchingStory
