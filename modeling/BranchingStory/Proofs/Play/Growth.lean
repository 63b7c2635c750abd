import BranchingStory.Proofs.Play.Turns
import BranchingStory.Proofs.Story.Plain

/-!
# What only grows

Whatever the player does and whatever is drawn, a playthrough forgets nothing.  Visits are added at
the end of its history, flags and marks are only ever set, who plays where stays as it is, and so do
results once there are any.  Flags come from the choices that were accepted, and marks from fan-out
routers; neither kind of name gets among the other.

Nothing is asked of the playthrough that a run goes on from.

Main results:

- `Story.grows_of_act`: what an action adds.
- `Story.only_grows_of_runs`: what a run of actions adds.
-/

namespace BranchingStory
namespace Story

variable {story : Story} {limit count : Nat} {s s' t m : Playthrough} {stop : Stop}
  {choice : Option Choice} {source : Source} {visits more : List Visit}
  {choices others : List Choice}

/-! ## Growing -/

/-- A playthrough goes on to another one: visits are recorded, the flags of choices are set, fan-out
routers are marked, and apart from that it is remembered who plays where and with which results. -/
structure Grows (story : Story) (s : Playthrough) (visits : List Visit) (choices : List Choice)
    (s' : Playthrough) : Prop where
  history : s'.history = s.history ++ visits
  flags : ∀ flag, flag ∈ s'.flags ↔ flag ∈ s.flags ∨ ∃ choice ∈ choices, flag ∈ choice.flags
  marks : ∀ id ∈ s.marks, id ∈ s'.marks
  newMarks : ∀ id ∈ s'.marks, id ∈ s.marks ∨
    ∃ branches resume, story.node? id = some (.fanout branches resume)
  persona : s'.persona = s.persona
  location : s'.location = s.location
  results : s.isFinished = true → s'.outcome = s.outcome ∧
    s'.outcomeDescription = s.outcomeDescription ∧ s'.scorecard = s.scorecard

namespace Grows

/-- Being somewhere else, with other stats and another excursion, adds nothing. -/
theorem elsewhere (story : Story) (s : Playthrough) (node : String) (stats : Stats)
    (queue : List String) (returnNode : Option String) :
    story.Grows s [] [] {
      s with
      node := node
      stats := stats
      queue := queue
      returnNode := returnNode } where
  history := (List.append_nil _).symm
  flags := by simp
  marks _ hid := hid
  newMarks _ hid := Or.inl hid
  persona := rfl
  location := rfl
  results _ := ⟨rfl, rfl, rfl⟩

/-- Every playthrough goes on to itself, with nothing added. -/
theorem refl (story : Story) (s : Playthrough) : story.Grows s [] [] s :=
  elsewhere story s s.node s.stats s.queue s.returnNode

/-- What is added on the way adds up. -/
theorem trans (h : story.Grows s visits choices t) (h' : story.Grows t more others s') :
    story.Grows s (visits ++ more) (choices ++ others) s' where
  history := by rw [h'.history, h.history, List.append_assoc]
  flags := by
    intro flag
    rw [h'.flags, h.flags, or_assoc]
    simp only [List.mem_append, or_and_right, exists_or]
  marks id hid := h'.marks id (h.marks id hid)
  newMarks id hid := (h'.newMarks id hid).elim (h.newMarks id) Or.inr
  persona := h'.persona.trans h.persona
  location := h'.location.trans h.location
  results := by
    intro hfinished
    obtain ⟨houtcome, hdescription, hcard⟩ := h.results hfinished
    have hfinished' : t.isFinished = true := by
      rw [Playthrough.isFinished, hcard]
      exact hfinished
    obtain ⟨houtcome', hdescription', hcard'⟩ := h'.results hfinished'
    exact ⟨houtcome'.trans houtcome, hdescription'.trans hdescription, hcard'.trans hcard⟩

/-- A visit is recorded on leaving for another node. -/
theorem visited (story : Story) (s : Playthrough) (visit : Visit) (node : String)
    (returnNode : Option String) :
    story.Grows s [visit] [] {
      s with
      history := s.history ++ [visit]
      returnNode := returnNode
      node := node } :=
  { elsewhere story s node s.stats s.queue returnNode with history := rfl }

end Grows

/-! ## Moving on -/

/-- Moving on adds nothing. -/
theorem Moves.grows (h : story.Moves s s') : story.Grows s [] [] s' := by
  cases h with
  | branch _ _ => exact .elsewhere ..
  | default _ _ => exact .elsewhere ..
  | passed _ _ => exact .elsewhere ..
  | unmatched _ _ _ => exact .elsewhere ..

/-- A playthrough that has been scored is not scored again. -/
theorem value_score_of_isFinished (h : s.isFinished = true) : (story.score s).value = s := by
  simp [score, h]

/-- Scoring adds results where there are none. -/
theorem grows_score (story : Story) (s : Playthrough) :
    story.Grows s [] [] (story.score s).value := by
  cases hfinished : s.isFinished with
  | true =>
      rw [value_score_of_isFinished hfinished]
      exact .refl story s
  | false =>
      obtain ⟨_, _, _, hscore⟩ := story.exists_value_score_eq s
      rw [hscore]
      exact { Grows.refl story s with
        history := (List.append_nil _).symm
        results := fun htrue => absurd htrue (by simp [hfinished]) }

/-- A playthrough that comes to rest gets the mark of the fan-out router that fires, and no flag. -/
theorem Rests.grows (h : story.Rests m stop s') : story.Grows m [] [] s' := by
  cases h with
  | missing _ => exact .refl story _
  | interactive _ _ => exact .refl story _
  | outcome _ => exact story.grows_score m
  | stalled _ _ => exact .refl story _
  | @fired branches others resume first hnode _ _ =>
      have hmoved : story.Grows m [] [] {
          m with
          queue := others.map Branch.next
          returnNode := some resume
          node := first.next } := .elsewhere ..
      exact { hmoved with
        marks := fun id hid => Names.mem_insert.mpr (Or.inr hid)
        newMarks := by
          intro id hid
          rcases Names.mem_insert.mp hid with rfl | hid
          · exact Or.inr ⟨branches, resume, hnode⟩
          · exact Or.inl hid }

/-- Until the story arrives, no visit is recorded and no flag is set. -/
theorem grows_of_arrive (h : (story.arrive limit s).value = .ok s') : story.Grows s [] [] s' := by
  obtain ⟨stop, m, hm, hrests⟩ := exists_rests_of_arrive_of_invariant
    (P := fun t => story.Grows s [] [] t) (fun hmove ht => ht.trans hmove.grows) h (.refl story s)
  exact hm.trans hrests.grows

/-! ## Actions -/

/-- The choice that an action makes at a playthrough, unless it is not asked for or not open. -/
def accepted (story : Story) (s : Playthrough) (choice : Option Choice) : List Choice :=
  match story.node? s.node, s.queue, choice with
  | some (.decision ..), [], some chosen => if chosen.isOpenTo s then [chosen] else []
  | _, _, _ => []

/-- A choice that is taken is recorded, and its flags are set. -/
theorem grows_take (story : Story) (chosen : Choice) (s : Playthrough) (source : Source) :
    story.Grows s [⟨s.node, some chosen.id⟩] [chosen]
      (chosen.take story.bounds s source).value.1 :=
  { Grows.refl story s with
    history := rfl
    flags := by
      intro flag
      simp [Choice.take, or_comm]
    results := fun _ => ⟨rfl, rfl, rfl⟩ }

/-- An idle action makes no choice. -/
theorem accepted_of_idle (h : story.Idle s choice) : story.accepted s choice = [] := by
  cases h with
  | nowhere hnode => simp [accepted, hnode]
  | lostStop _ hqueue _ => simp [accepted, hqueue]
  | ending hnode _ _ _ => simp [accepted, hnode]
  | undecided _ _ hchoice => simp [accepted, hchoice]
  | rejected hnode hqueue hchoice hclosed => simp [accepted, hnode, hqueue, hchoice, hclosed]
  | @notWaiting node hnode _ hwaits =>
      cases node <;> simp_all [accepted, Node.isInteractive]

/-- An action records at most one visit and sets the flags of the choice that it makes. -/
theorem grows_of_act (h : (story.act limit s choice source).value.result = .ok s') :
    ∃ visits : List Visit, visits.length ≤ 1 ∧
      story.Grows s visits (story.accepted s choice) s' := by
  have hacts := story.acts_act limit s choice source
  generalize (story.act limit s choice source).value.result = result at h hacts
  cases hacts with
  | idle hidle =>
      cases h
      rw [accepted_of_idle hidle]
      exact ⟨[], Nat.zero_le 1, .refl story s⟩
  | nextStop _ hqueue _ =>
      cases h
      rw [show story.accepted s choice = [] by simp [accepted, hqueue]]
      exact ⟨[], Nat.zero_le 1, .elsewhere ..⟩
  | resumed _ hqueue _ =>
      rw [show story.accepted s choice = [] by simp [accepted, hqueue]]
      exact ⟨[], Nat.zero_le 1, (Grows.elsewhere ..).trans (grows_of_arrive h)⟩
  | continued hnode _ _ =>
      rw [show story.accepted s choice = [] by simp [accepted, hnode]]
      exact ⟨[⟨s.node, none⟩], Nat.le_refl 1,
        (Grows.visited story s ⟨s.node, none⟩ _ s.returnNode).trans (grows_of_arrive h)⟩
  | leftFeedback hnode _ _ _ =>
      rw [show story.accepted s choice = [] by simp [accepted, hnode]]
      exact ⟨[⟨s.node, none⟩], Nat.le_refl 1,
        (Grows.visited story s ⟨s.node, none⟩ _ none).trans (grows_of_arrive h)⟩
  | @chose _ _ chosen hnode hqueue hchoice hopen =>
      rw [show story.accepted s choice = [chosen] by
        simp [accepted, hnode, hqueue, hchoice, hopen]]
      exact ⟨[⟨s.node, some chosen.id⟩], Nat.le_refl 1,
        (story.grows_take chosen s source).trans (grows_of_arrive h)⟩

/-! ## Runs -/

/-- So many actions, each of which gives a playthrough, lead from one playthrough to another.  Every
action has a choice, a limit and a source of its own; the choices that were made are listed. -/
inductive Runs (story : Story) (s : Playthrough) : Nat → List Choice → Playthrough → Prop
  | stay : Runs story s 0 [] s
  | act {count limit : Nat} {choices : List Choice} {t s' : Playthrough} {choice : Option Choice}
      {source : Source} (hruns : Runs story s count choices t)
      (hact : (story.act limit t choice source).value.result = .ok s') :
      Runs story s (count + 1) (choices ++ story.accepted t choice) s'

/-- Actions that follow each other add what each of them adds. -/
theorem Runs.grows (h : story.Runs s count choices s') :
    ∃ visits : List Visit, visits.length ≤ count ∧ story.Grows s visits choices s' := by
  induction h with
  | stay => exact ⟨[], Nat.le_refl 0, .refl story s⟩
  | act _ hact ih =>
      obtain ⟨visits, hlength, hgrows⟩ := ih
      obtain ⟨more, hmore, hgrows'⟩ := grows_of_act hact
      refine ⟨visits ++ more, ?_, hgrows.trans hgrows'⟩
      rw [List.length_append]
      exact Nat.add_le_add hlength hmore

/-- Actions lead from any playthrough only to ones that remember all of it:

- the history goes on where it was, by at most one visit for each action;
- the flags are those that were set and those of the choices that were made;
- every mark stays, and a new one is that of a fan-out router;
- the persona and the location are the same;
- results stay as they are. -/
theorem only_grows_of_runs (h : story.Runs s count choices s') :
    (∃ visits, s'.history = s.history ++ visits ∧ visits.length ≤ count) ∧
      (∀ limit choice source next, (story.act limit s' choice source).value.result = .ok next →
        ∃ visits, next.history = s'.history ++ visits ∧ visits.length ≤ 1) ∧
      (∀ flag, flag ∈ s'.flags ↔ flag ∈ s.flags ∨ ∃ choice ∈ choices, flag ∈ choice.flags) ∧
      (∀ id ∈ s.marks, id ∈ s'.marks) ∧
      (∀ id ∈ s'.marks, id ∈ s.marks ∨
        ∃ branches resume, story.node? id = some (.fanout branches resume)) ∧
      s'.persona = s.persona ∧ s'.location = s.location ∧
      (s.scorecard.isSome = true → s'.outcome = s.outcome ∧
        s'.outcomeDescription = s.outcomeDescription ∧ s'.scorecard = s.scorecard) := by
  obtain ⟨visits, hlength, hgrows⟩ := h.grows
  refine ⟨⟨visits, hgrows.history, hlength⟩, ?_, hgrows.flags, hgrows.marks, hgrows.newMarks,
    hgrows.persona, hgrows.location, hgrows.results⟩
  intro limit choice source next hact
  obtain ⟨more, hmore, hnext⟩ := grows_of_act hact
  exact ⟨more, hnext.history, hmore⟩

/-- A choice that sets a flag. -/
def packing : Choice :=
  ⟨"pack", "Pack", none, ∅, .none, some (.one "packed"), [], ∅, "GATE"⟩

/-- A camp with a gate behind it, which sends a player without any safety to a tip. -/
def campStory : Story :=
  .plain
    [("CAMP", .decision ⟨none, ∅, ∅⟩ [packing]),
      ("END", .outcome ⟨none, ∅, ∅⟩),
      ("GATE", .fanout [⟨some "S < 1", "TIP", .none⟩] "END"),
      ("TIP", .narrative ⟨none, ∅, ∅⟩ none none)] []

/-- In the camp, on the way from the road and with a flag. -/
def atCamp : Playthrough :=
  { Playthrough.start "CAMP" "Student" "River" (.uniform 0) with
    flags := .ofList ["warned"]
    history := [⟨"ROAD", none⟩] }

/-- At the tip, after packing. -/
def atTip : Playthrough :=
  { atCamp with
    node := "TIP"
    flags := .ofList ["packed", "warned"]
    marks := .ofList ["GATE"]
    history := [⟨"ROAD", none⟩, ⟨"CAMP", some "pack"⟩]
    returnNode := some "END" }

/-- At the end, after the tip and before it is scored. -/
def afterTip : Playthrough :=
  { atTip with
    node := "END"
    history := [⟨"ROAD", none⟩, ⟨"CAMP", some "pack"⟩, ⟨"TIP", none⟩]
    returnNode := none }

/-- Packing and then leaving the tip adds two visits, one flag and one mark, and no more flags. -/
theorem only_grows_of_campStory :
    ∃ s', campStory.Runs atCamp 2 [packing] s' ∧ s'.isFinished = true ∧
      (∃ visits, s'.history = ⟨"ROAD", none⟩ :: visits ∧ visits.length ≤ 2) ∧
      (∀ flag, flag ∈ s'.flags ↔ flag = "warned" ∨ flag = "packed") ∧
      "GATE" ∈ s'.marks ∧ s'.persona = "Student" ∧ s'.location = "River" := by
  have hpack : (campStory.act 1 atCamp (some packing) (.scripted [])).value.result = .ok atTip := by
    rfl
  have hleave : (campStory.act 1 atTip none (.scripted [])).value.result =
      .ok (campStory.score afterTip).value := by
    rfl
  have hruns : campStory.Runs atCamp 2 [packing] (campStory.score afterTip).value :=
    .act (.act .stay hpack) hleave
  obtain ⟨⟨visits, hhistory, hlength⟩, -, hflags, -, -, hpersona, hlocation, -⟩ :=
    only_grows_of_runs hruns
  obtain ⟨_, _, _, hscore⟩ := campStory.exists_value_score_eq afterTip
  refine ⟨_, hruns, ?_, ⟨visits, hhistory, hlength⟩, ?_, ?_, hpersona, hlocation⟩
  · rw [hscore]
    rfl
  · intro flag
    rw [hflags]
    simp [atCamp, packing, Choice.flags, FlagList.toList]
  · rw [hscore]
    exact Names.mem_ofList.mpr List.mem_cons_self

end Story
end BranchingStory
