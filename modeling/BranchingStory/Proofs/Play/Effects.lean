import BranchingStory.Proofs.Play.Chances
import BranchingStory.Proofs.Play.Turns
import BranchingStory.Proofs.Story.Plain

/-!
# What a choice does

A choice is barred where a flag that it requires is not set or a stat is outside its gate.  A choice
that is not barred is recorded and has its effects in a fixed order: its own adjustment, the one for
the persona, and one effect of the chance table in force.  This table looks at the playthrough after
the two adjustments and before the flags of the choice are set.  Then the story moves on from where
the choice leads.

Main results:

- `Choice.isOpenTo_eq_false_iff`: a choice is closed exactly if it is barred.
- `Choice.effects_take`: what is written when a choice is taken.
- `Story.choice_takes_effect`: what comes of a choice at a decision.
-/

namespace BranchingStory

variable {s : Playthrough} {choice : Choice} {value : Amount} {symbol : String} {gate : Gate}

/-! ## Barred choices -/

/-- The value is below the lower end of the gate or above its upper end. -/
def Gate.Excludes (gate : Gate) (value : Amount) : Prop :=
  (∃ min, gate.min = some min ∧ value < min) ∨ ∃ max, gate.max = some max ∧ max < value

/-- A gate is closed to the values that it excludes. -/
theorem Gate.admits_eq_false_iff : gate.admits value = false ↔ gate.Excludes value := by
  simp only [admits, Excludes, Bool.and_eq_false_iff, Option.all_eq_false,
    decide_eq_false_iff_not, Int32.not_le]

/-- Why a choice cannot be taken. -/
inductive Choice.IsBarred (choice : Choice) (s : Playthrough) : Prop
  | flag {flag : String} (hrequired : choice.requiredFlag = some flag) (hunset : flag ∉ s.flags) :
      IsBarred choice s
  /-- The gate of a stat excludes its value; gates for other symbols do not matter. -/
  | gate {symbol : String} {gate : Gate} {stat : Stat}
      (hgate : choice.gates.get? symbol = some gate) (hstat : Stat.ofKey? symbol = some stat)
      (hvalue : gate.Excludes (s.value stat)) : IsBarred choice s

/-- A gate bars the choice if it is one for a stat whose value it excludes. -/
theorem Choice.passes_eq_false_iff : passes s symbol gate = false ↔
    ∃ stat, Stat.ofKey? symbol = some stat ∧ gate.Excludes (s.value stat) := by
  unfold passes
  cases hstat : Stat.ofKey? symbol with
  | none => simp
  | some stat => simp [Gate.admits_eq_false_iff]

/-- A choice is closed exactly if it is barred. -/
theorem Choice.isOpenTo_eq_false_iff : choice.isOpenTo s = false ↔ choice.IsBarred s := by
  simp only [isOpenTo, Bool.and_eq_false_iff, Option.all_eq_false, List.all_eq_false,
    Bool.not_eq_true, passes_eq_false_iff]
  constructor
  · rintro (⟨flag, hrequired, hunset⟩ | ⟨⟨symbol, gate⟩, hmem, stat, hstat, hvalue⟩)
    · exact .flag hrequired (of_decide_eq_false hunset)
    · exact .gate (Table.mem_toList_iff.mp hmem) hstat hvalue
  · rintro (⟨hrequired, hunset⟩ | ⟨hgate, hstat, hvalue⟩)
    · exact Or.inl ⟨_, hrequired, decide_eq_false hunset⟩
    · exact Or.inr ⟨(_, _), Table.mem_toList_iff.mpr hgate, _, hstat, hvalue⟩

/-- A choice is open exactly if nothing bars it. -/
theorem Choice.isOpenTo_iff_not_isBarred : choice.isOpenTo s = true ↔ ¬ choice.IsBarred s := by
  rw [← isOpenTo_eq_false_iff, Bool.not_eq_false]

/-! ## Effects -/

namespace Choice

variable {bounds : PerStat Bounds} {source : Source} {persona : String}

/-- The stats after the adjustment of the choice and then that for the persona, if there is one. -/
inductive Adjusts (choice : Choice) (bounds : PerStat Bounds) (s : Playthrough) : Stats → Prop
  | plain (hplain : ∀ effects, choice.personaEffects.get? s.persona = some effects →
        effects.adjustment = none) :
      Adjusts choice bounds s (choice.adjustment.applyTo bounds s.stats)
  | forPersona {effects : PersonaEffects} {adjustment : Adjustment}
      (heffects : choice.personaEffects.get? s.persona = some effects)
      (hadjustment : effects.adjustment = some adjustment) :
      Adjusts choice bounds s
        (adjustment.applyTo bounds (choice.adjustment.applyTo bounds s.stats))

/-- The chance table in force: that for the persona, even if it is empty, else that of the
choice. -/
inductive HasTable (choice : Choice) (persona : String) : List ChanceEntry → Prop
  | plain (hplain : ∀ effects, choice.personaEffects.get? persona = some effects →
        effects.chances = none) : HasTable choice persona choice.chances
  | forPersona {effects : PersonaEffects} {table : List ChanceEntry}
      (heffects : choice.personaEffects.get? persona = some effects)
      (hchances : effects.chances = some table) : HasTable choice persona table

/-- The effects of taking a choice: what one playthrough becomes before the story moves on. -/
structure Effects (choice : Choice) (bounds : PerStat Bounds) (s : Playthrough) (source : Source)
    (t : Playthrough) : Prop where
  history : t.history = s.history ++ [⟨s.node, some choice.id⟩]
  /-- Two adjustments, and then what the table gives.  The table sees the adjusted stats and the
  flags from before. -/
  stats : ∃ adjusted table outcome, choice.Adjusts bounds s adjusted ∧
    choice.HasTable s.persona table ∧
    Chance.Gives bounds { s with history := t.history, stats := adjusted } table source outcome ∧
    t.stats = outcome.stats
  flags : ∀ flag, flag ∈ t.flags ↔ flag ∈ s.flags ∨ flag ∈ choice.flags
  returnNode : t.returnNode = none
  node : t.node = choice.next
  persona : t.persona = s.persona
  location : t.location = s.location
  marks : t.marks = s.marks
  queue : t.queue = s.queue
  outcome : t.outcome = s.outcome
  outcomeDescription : t.outcomeDescription = s.outcomeDescription
  scorecard : t.scorecard = s.scorecard

/-- The stats after a choice are the adjusted ones. -/
theorem adjusts_adjustStats (choice : Choice) (bounds : PerStat Bounds) (s : Playthrough) :
    choice.Adjusts bounds s (choice.adjustStats bounds s) := by
  unfold adjustStats effectsFor?
  split
  · rename_i adjustment hbind
    obtain ⟨effects, heffects, hadjustment⟩ := Option.bind_eq_some_iff.mp hbind
    exact .forPersona heffects hadjustment
  · rename_i hbind
    exact .plain (Option.bind_eq_none_iff.mp hbind)

/-- The chance table in force is the one for the persona, or else that of the choice. -/
theorem hasTable_chancesFor (choice : Choice) (persona : String) :
    choice.HasTable persona (choice.chancesFor persona) := by
  unfold chancesFor effectsFor?
  cases hbind : (choice.personaEffects.get? persona).bind PersonaEffects.chances with
  | none => exact .plain (Option.bind_eq_none_iff.mp hbind)
  | some table =>
      obtain ⟨effects, heffects, hchances⟩ := Option.bind_eq_some_iff.mp hbind
      exact .forPersona heffects hchances

/-- Taking a choice has its effects and writes nothing else. -/
theorem effects_take (choice : Choice) (bounds : PerStat Bounds) (s : Playthrough)
    (source : Source) : choice.Effects bounds s source (choice.take bounds s source).value.1 where
  history := rfl
  stats := ⟨_, _, _, choice.adjusts_adjustStats bounds s, choice.hasTable_chancesFor s.persona,
    Chance.gives_apply _ _ _ _, rfl⟩
  flags flag := by
    rw [or_comm]
    exact Names.mem_insertAll
  returnNode := rfl
  node := rfl
  persona := rfl
  location := rfl
  marks := rfl
  queue := rfl
  outcome := rfl
  outcomeDescription := rfl
  scorecard := rfl

end Choice

/-! ## Choices at a decision -/

namespace Story

variable {story : Story} {limit : Nat} {source : Source} {text : NodeText} {choices : List Choice}

/-- At a decision without pending stops, a barred choice leaves the playthrough as it is.  Any other
choice has its effects, and what comes of it, also an error, is what comes of moving on from
there. -/
theorem choice_takes_effect (hnode : story.node? s.node = some (.decision text choices))
    (hqueue : s.queue = []) (choice : Choice) (limit : Nat) (source : Source) :
    (choice.IsBarred s →
      (story.act limit s (some choice) source).value.result = .ok s) ∧
    (¬ choice.IsBarred s →
      ∃ t, choice.Effects story.bounds s source t ∧
        (story.act limit s (some choice) source).value.result = (story.arrive limit t).value) := by
  constructor
  · intro hbarred
    have hidle : story.Idle s (some choice) :=
      .rejected hnode hqueue rfl (Choice.isOpenTo_eq_false_iff.mpr hbarred)
    rw [value_act_of_idle hidle]
  · intro hfree
    have hopen : choice.isOpenTo s = true := by
      rw [← Bool.not_eq_false, Choice.isOpenTo_eq_false_iff]
      exact hfree
    exact ⟨_, choice.effects_take story.bounds s source,
      result_act_of_setsOut (.chose hnode hqueue rfl hopen) limit⟩

/-- Rowing makes safe beyond all bounds, but a student less so, and takes the student's chances in
place of its own. -/
def rowing : Choice where
  id := "row"
  label := "Row"
  requiredFlag := some "boat"
  gates := .ofList [("S", ⟨none, some 0⟩), ("luck", ⟨some 9, none⟩)]
  adjustment := ⟨.ofList [("S", 20)]⟩
  flagList := some (.one "wet")
  chances := [⟨none, 1, ⟨.ofList [("R", 9)]⟩⟩]
  personaEffects := .ofList [("Student",
    { adjustment := some ⟨.ofList [("S", -3)]⟩
      chances := some [⟨some "'wet' in flags", 1, ⟨.ofList [("M", 9)]⟩⟩,
        ⟨some "S == 7", 1, ⟨.ofList [("M", 5)]⟩⟩] })]
  next := "FAR"

/-- A shore with a far side. -/
def shoreStory : Story :=
  .plain
    [("FAR", .narrative ⟨none, ∅, ∅⟩ none none),
      ("SHORE", .decision ⟨none, ∅, ∅⟩ [rowing])] []

/-- On the shore with some flags, on an excursion that is not over. -/
def onShore (flags : List String) : Playthrough :=
  { Playthrough.start "SHORE" "Student" "River" (.uniform 0) with
    flags := .ofList flags
    returnNode := some "SHORE" }

/-- Without a boat nothing comes of rowing.  With one, the two adjustments are made one after the
other, the student's table is in force, and the flag that rowing sets comes too late for it. -/
theorem choice_takes_effect_on_shore :
    (shoreStory.act 0 (onShore []) (some rowing) (.scripted [])).value.result =
        .ok (onShore []) ∧
      (∃ t, rowing.Effects shoreStory.bounds (onShore ["boat"]) (.scripted []) t ∧
        (shoreStory.act 0 (onShore ["boat"]) (some rowing) (.scripted [])).value.result =
          (shoreStory.arrive 0 t).value) ∧
      (shoreStory.act 0 (onShore ["boat"]) (some rowing) (.scripted [])).value.result.toOption =
        some { onShore ["boat", "wet"] with
          node := "FAR"
          stats := { PerStat.uniform 0 with safety := 7, mobility := 5 }
          history := [⟨"SHORE", some "row"⟩]
          returnNode := none } := by
  have hbarred : rowing.IsBarred (onShore []) := .flag rfl (Names.not_mem_empty "boat")
  have hfree : ¬ rowing.IsBarred (onShore ["boat"]) := by
    rw [← Choice.isOpenTo_eq_false_iff]
    decide +kernel
  refine ⟨(choice_takes_effect rfl rfl rowing 0 (.scripted [])).1 hbarred,
    (choice_takes_effect rfl rfl rowing 0 (.scripted [])).2 hfree, ?_⟩
  decide +kernel

end Story
end BranchingStory
