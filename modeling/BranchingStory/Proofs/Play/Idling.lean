import BranchingStory.Proofs.Play.Detours
import BranchingStory.Proofs.Play.Growth

/-!
# Actions without effect

An action that is not idle always leaves a trace.  A stop less is pending, or a visit more is
recorded.  Only going on after an excursion does neither; but then the pending stops are gone, and
if a fan-out router sends the player to as many stops again, it has a mark that it did not have.  So
a playthrough never comes back to itself, and what leaves it as it is also leaves the source as it
is.  Idle actions can therefore be struck from any sequence of actions.

Main results:

- `Story.ne_of_setsOut`: an action that lets the story move on changes the playthrough.
- `Story.unchanged_iff_idle`: only idle actions leave a playthrough as it is, and without them a
  sequence of actions leads to the same playthrough with the same draws left.
-/

namespace BranchingStory
namespace Story

variable {story : Story} {limit : Nat} {s s' t : Playthrough} {choice : Option Choice}
  {source : Source}

/-! ## Progress -/

/-- A walk from where no stop is pending ends where none is, or a fan-out router has fired that had
not fired before. -/
theorem queue_eq_nil_or_newMark_of_arrive (h : (story.arrive limit t).value = .ok s')
    (hqueue : t.queue = []) : s'.queue = [] ∨ ∃ id ∈ s'.marks, id ∉ t.marks := by
  obtain ⟨stop, m, ⟨hm, hmarks⟩, hrests⟩ := exists_rests_of_arrive_of_invariant
    (P := fun u => u.queue = [] ∧ u.marks = t.marks)
    (fun hmove hu => ⟨hmove.queue.trans hu.1, hmove.marks.trans hu.2⟩) h ⟨hqueue, rfl⟩
  cases hrests with
  | missing _ => exact Or.inl hm
  | interactive _ _ => exact Or.inl hm
  | outcome _ =>
      obtain ⟨_, _, _, hscore⟩ := story.exists_value_score_eq m
      rw [hscore]
      exact Or.inl hm
  | stalled _ _ => exact Or.inl hm
  | fired _ hmark _ =>
      rw [hmarks] at hmark
      exact Or.inr ⟨m.node, Names.mem_insert.mpr (Or.inl rfl), hmark⟩

/-- A walk after a visit does not lead back to before the visit. -/
theorem ne_of_arrive_of_visit {visit : Visit} (h : (story.arrive limit t).value = .ok s')
    (hvisit : t.history = s.history ++ [visit]) : s' ≠ s := by
  rintro rfl
  have hhistory := (grows_of_arrive h).history
  rw [hvisit] at hhistory
  simp at hhistory

/-- An action that lets the story move on changes the playthrough. -/
theorem ne_of_setsOut (hsets : story.SetsOut s choice source t)
    (h : (story.arrive limit t).value = .ok s') : s' ≠ s := by
  cases hsets with
  | resumed _ hqueue _ =>
      rintro rfl
      rcases queue_eq_nil_or_newMark_of_arrive h rfl with hnil | ⟨id, hid, hnot⟩
      · rw [hqueue] at hnil
        cases hnil
      · exact hnot hid
  | continued _ _ _ => exact ne_of_arrive_of_visit h rfl
  | leftFeedback _ _ _ _ => exact ne_of_arrive_of_visit h rfl
  | chose _ _ _ _ => exact ne_of_arrive_of_visit h rfl

/-- An action leaves a playthrough as it is exactly if it is idle. -/
theorem result_act_eq_self_iff :
    (story.act limit s choice source).value.result = .ok s ↔ story.Idle s choice := by
  constructor
  · intro h
    rcases story.idle_or_setsOut_or_nextStop limit s choice source with
      hidle | ⟨t, hsets, hresult⟩ | ⟨stop, rest, hqueue, hresult⟩
    · exact hidle
    · exact absurd rfl (ne_of_setsOut hsets (hresult.symm.trans h))
    · have hrest : rest = s.queue :=
        congrArg Playthrough.queue (Except.ok.inj (hresult.symm.trans h))
      rw [hqueue] at hrest
      simp at hrest
  · intro hidle
    rw [value_act_of_idle hidle]

/-! ## Sequences of actions -/

/-- Apply actions one after the other, and give the playthrough and the source after the last.  An
action that fails leaves the playthrough as it is, but what it has drawn stays drawn. -/
def actEach (story : Story) (limit : Nat) :
    List (Option Choice) → Playthrough → Source → Playthrough × Source
  | [], s, source => (s, source)
  | choice :: choices, s, source =>
      let turn := (story.act limit s choice source).value
      match turn.result with
      | .ok s' => story.actEach limit choices s' turn.source
      | .error _ => story.actEach limit choices s turn.source

/-- The actions of such a sequence without those that give the playthrough at which they are
applied. -/
def effective (story : Story) (limit : Nat) :
    List (Option Choice) → Playthrough → Source → List (Option Choice)
  | [], _, _ => []
  | choice :: choices, s, source =>
      let turn := (story.act limit s choice source).value
      match turn.result with
      | .ok s' =>
          let others := story.effective limit choices s' turn.source
          if s' = s then others else choice :: others
      | .error _ => choice :: story.effective limit choices s turn.source

/-- Striking the idle actions from a sequence changes neither where it ends nor what it draws. -/
theorem actEach_effective (choices : List (Option Choice)) (s : Playthrough) (source : Source) :
    story.actEach limit (story.effective limit choices s source) s source =
      story.actEach limit choices s source := by
  induction choices generalizing s source with
  | nil => rfl
  | cons choice choices ih =>
      cases hresult : (story.act limit s choice source).value.result with
      | error e => simp only [effective, actEach, hresult, ih]
      | ok s' =>
          by_cases hsame : s' = s
          · subst hsame
            have hidle : story.Idle s' choice := result_act_eq_self_iff.mp hresult
            simp only [effective, actEach, value_act_of_idle hidle, if_true, ih]
          · simp only [effective, actEach, hresult, if_neg hsame, ih]

/-- An action that gives a playthrough leaves it as it was exactly if it is idle, and then it draws
nothing.  So the idle actions of a sequence can be struck: it ends at the same playthrough, with the
same draws left. -/
theorem unchanged_iff_idle (story : Story) (limit : Nat) (s : Playthrough) (choice : Option Choice)
    (source : Source) :
    (∀ s', (story.act limit s choice source).value.result = .ok s' →
        (s' = s ↔ story.Idle s choice)) ∧
      ((story.act limit s choice source).value.result = .ok s →
        (story.act limit s choice source).value.source = source) ∧
      ∀ choices, story.actEach limit (story.effective limit choices s source) s source =
        story.actEach limit choices s source := by
  refine ⟨?_, ?_, fun choices => actEach_effective choices s source⟩
  · intro s' h
    have hself : (story.act limit s choice source).value.result = .ok s ↔ story.Idle s choice :=
      result_act_eq_self_iff
    rw [← hself, h, Except.ok.injEq]
  · intro h
    rw [value_act_of_idle (result_act_eq_self_iff.mp h)]

/-- A story that goes on in front of its gate again after every excursion. -/
def loopStory : Story :=
  .plain
    [("GATE", .fanout [⟨some "S < 1", "TIP", .none⟩, ⟨some "S < 2", "", .none⟩] "GATE"),
      ("TIP", .narrative ⟨none, ∅, ∅⟩ none none)] []

/-- At the tip, without an excursion. -/
def atLoneTip : Playthrough :=
  .start "TIP" "Student" "River" (.uniform 0)

/-- At the tip, with a stop without an id to come, and with the gate to go on at. -/
def atLoop : Playthrough :=
  { atLoneTip with
    queue := [""]
    returnNode := some "GATE" }

/-- On an excursion the player comes back to the tip, with the same stops and the same way on, but
with a mark.  Without one nothing happens there, however often the player continues. -/
theorem unchanged_of_loopStory :
    (∃ s', (loopStory.act 1 atLoop none (.scripted [])).value.result = .ok s' ∧
      s'.node = "TIP" ∧ s'.queue = [""] ∧ s'.returnNode = some "GATE" ∧ s'.history = [] ∧
      s' ≠ atLoop ∧ ¬ loopStory.Idle atLoop none) ∧
    loopStory.actEach 1 [none, none, none] atLoneTip (.scripted [7]) =
      (atLoneTip, .scripted [7]) := by
  have hact : (loopStory.act 1 atLoop none (.scripted [])).value.result =
      .ok { atLoop with marks := .ofList ["GATE"] } := by
    rfl
  have hne : { atLoop with marks := .ofList ["GATE"] } ≠ atLoop := by decide
  have hiff := (unchanged_iff_idle loopStory 1 atLoop none (.scripted [])).1 _ hact
  refine ⟨⟨_, hact, rfl, rfl, rfl, rfl, hne, fun hidle => hne (hiff.mpr hidle)⟩, ?_⟩
  have hnone : loopStory.effective 1 [none, none, none] atLoneTip (.scripted [7]) = [] := by
    rfl
  have hstruck := (unchanged_iff_idle loopStory 1 atLoneTip none (.scripted [7])).2.2
    [none, none, none]
  rw [← hstruck, hnone]
  rfl

end Story
end BranchingStory
