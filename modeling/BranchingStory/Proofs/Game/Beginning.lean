import BranchingStory.Proofs.Game.Runs
import BranchingStory.Proofs.Story.Adjustments
import BranchingStory.Proofs.Story.Plain
import BranchingStory.Proofs.Story.Validation

/-!
# How a game begins

A game begins for an authored persona at an authored location, and for nobody else and nowhere else.
It opens at the start node with nothing collected and nothing pending.  The initial values are moved
into their bounds; the adjustment of the persona follows for the status variables, and that of the
location for every stat, each moved into the bounds by itself.  From there the story moves on by
itself.

A persona and a location can also be drawn.  As validation makes sure that there are some, a drawn
game is a game of an authored persona at an authored location, whatever the random stream is.

Main results:

- `Game.isOpening_iff`: what a playthrough is before the story moves on.
- `Game.exists_get?_of_drawKey`: a key that is drawn is one of the table.
- `Game.begins_as_authored`: when a game begins, from where it goes on, and what a drawn one is.
-/

namespace BranchingStory

/-! ## One stat -/

namespace Bounds

/-- An integer moved into the range: lifted to the lower end first, then cut at the upper end. -/
def moved (range : Bounds) (n : Int) : Int :=
  Min.min (Max.max n range.min.toInt) range.max.toInt

/-- An integer after an amount, if there is one. -/
def stepped (range : Bounds) : Option Amount → Int → Int
  | none, n => n
  | some amount, n => range.moved (n + amount.toInt)

end Bounds

/-- An adjustment makes one step with each stat. -/
theorem Adjustment.toInt_get_applyTo_eq_stepped (a : Adjustment) (bounds : PerStat Bounds)
    (stats : Stats) (stat : Stat) :
    ((a.applyTo bounds stats).get stat).toInt =
      (bounds.get stat).stepped (a.amount? stat) (stats.get stat).toInt := by
  cases hamount : a.amount? stat with
  | none => rw [get_applyTo_of_eq_none hamount, Bounds.stepped]
  | some amount => rw [toInt_get_applyTo hamount, Bounds.stepped, Bounds.moved]

/-- The authored initial value of a stat, moved into its bounds. -/
def Story.initial (story : Story) (stat : Stat) : Int :=
  (story.bounds.get stat).moved ((story.system.initialValues.get? stat.key).getD 0).toInt

/-- A stat begins with its initial value, moved into its bounds. -/
theorem Story.toInt_get_initialStats (story : Story) (stat : Stat) :
    (story.initialStats.get stat).toInt = story.initial stat := by
  rw [initialStats, PerStat.get_ofFn, Bounds.toInt_clamp, initial, Bounds.moved]

namespace Game

variable {game : Game} {persona location : String} {ofPersona ofLocation : Adjustment}
  {s : Playthrough} {doc : Document}

/-! ## The opening -/

/-- A playthrough at the start node, before the story moves on from there. -/
structure IsOpening (game : Game) (persona location : String) (ofPersona ofLocation : Adjustment)
    (s : Playthrough) : Prop where
  node : s.node = game.settings.startNode
  persona : s.persona = persona
  location : s.location = location
  flags : s.flags = ∅
  marks : s.marks = ∅
  history : s.history = []
  queue : s.queue = []
  returnNode : s.returnNode = none
  outcome : s.outcome = none
  outcomeDescription : s.outcomeDescription = none
  scorecard : s.scorecard = none
  /-- A status variable goes by the persona first and by the location then. -/
  statusVariable : ∀ stat ∈ Stat.statusVariables, (s.value stat).toInt =
    let range := game.story.bounds.get stat
    range.stepped (ofLocation.amount? stat)
      (range.stepped (ofPersona.amount? stat) (game.story.initial stat))
  /-- A skill goes by the location only. -/
  skill : ∀ stat ∈ Stat.skills, (s.value stat).toInt =
    (game.story.bounds.get stat).stepped (ofLocation.amount? stat) (game.story.initial stat)

/-- The value of a stat in the opening. -/
theorem toInt_value_opening (stat : Stat) :
    ((game.opening persona location ofPersona ofLocation).value stat).toInt =
      (game.story.bounds.get stat).stepped (ofLocation.amount? stat)
        ((game.story.bounds.get stat).stepped
          (if stat ∈ Stat.statusVariables then ofPersona.amount? stat else none)
          (game.story.initial stat)) := by
  rw [← Adjustment.amount?_restrictedTo, ← Story.toInt_get_initialStats,
    ← Adjustment.toInt_get_applyTo_eq_stepped, ← Adjustment.toInt_get_applyTo_eq_stepped]
  rfl

/-- What a game opens with is an opening. -/
theorem isOpening_opening :
    game.IsOpening persona location ofPersona ofLocation
      (game.opening persona location ofPersona ofLocation) where
  node := rfl
  persona := rfl
  location := rfl
  flags := rfl
  marks := rfl
  history := rfl
  queue := rfl
  returnNode := rfl
  outcome := rfl
  outcomeDescription := rfl
  scorecard := rfl
  statusVariable := by
    intro stat hstat
    rw [toInt_value_opening, if_pos hstat]
  skill := by
    intro stat hstat
    have hother : stat ∉ Stat.statusVariables := by
      cases stat <;> revert hstat <;> decide
    rw [toInt_value_opening, if_neg hother, Bounds.stepped]

/-- There is one opening. -/
theorem isOpening_iff : game.IsOpening persona location ofPersona ofLocation s ↔
    s = game.opening persona location ofPersona ofLocation := by
  constructor
  · intro h
    have hopening : game.IsOpening persona location ofPersona ofLocation
        (game.opening persona location ofPersona ofLocation) := isOpening_opening
    have hstats : s.stats = (game.opening persona location ofPersona ofLocation).stats := by
      apply PerStat.ext_get
      intro stat
      apply Int32.toInt_inj.mp
      by_cases hskill : stat ∈ Stat.skills
      · exact (h.skill stat hskill).trans (hopening.skill stat hskill).symm
      · have hstat : stat ∈ Stat.statusVariables := by
          cases stat <;> revert hskill <;> decide
        exact (h.statusVariable stat hstat).trans (hopening.statusVariable stat hstat).symm
    calc
      s = ⟨s.node, s.persona, s.location, s.stats, s.flags, s.marks, s.history, s.queue,
          s.returnNode, s.outcome, s.outcomeDescription, s.scorecard⟩ := rfl
      _ = game.opening persona location ofPersona ofLocation := by
          rw [h.node, h.persona, h.location, hstats, h.flags, h.marks, h.history, h.queue,
            h.returnNode, h.outcome, h.outcomeDescription, h.scorecard]
          rfl
  · rintro rfl
    exact isOpening_opening

/-! ## Drawn keys -/

/-- A key that is drawn from a table with entries is one of them, whatever is drawn. -/
theorem exists_get?_of_drawKey {α : Type} {table : Table α} (h : table.isEmpty = false)
    (source : Source) :
    ∃ key value rest, drawKey table source = (some key, rest) ∧ table.get? key = some value := by
  have hsize : 0 < table.size := by
    rw [Table.isEmpty, List.isEmpty_eq_false_iff] at h
    exact List.length_pos_iff.mpr h
  have hindex : (source.index table.size).1 < table.keys.length := by
    rw [Table.keys, List.length_map]
    exact Source.fst_index_lt hsize source
  obtain ⟨value, hvalue⟩ :=
    Option.isSome_iff_exists.mp (Table.mem_keys_iff.mp (List.getElem_mem hindex))
  refine ⟨_, value, (source.index table.size).2, ?_, hvalue⟩
  rw [drawKey, if_neg (by simp [h]), ← List.getElem?_eq_getElem hindex]

/-- A drawn game is a game of a persona and a location of the story. -/
theorem exists_begin_of_beginRandom (hpersonas : game.story.personas.isEmpty = false)
    (hlocations : game.story.locations.isEmpty = false) :
    ∃ persona location ofPersona ofLocation, game.story.personas.get? persona = some ofPersona ∧
      game.story.locations.get? location = some ofLocation ∧
      game.beginRandom.value.result = (game.begin persona location).value := by
  obtain ⟨persona, ofPersona, source, hpersona, hknown⟩ :=
    exists_get?_of_drawKey hpersonas game.source
  obtain ⟨location, ofLocation, source', hlocation, hauthored⟩ :=
    exists_get?_of_drawKey hlocations source
  refine ⟨persona, location, ofPersona, ofLocation, hknown, hauthored, ?_⟩
  simp only [beginRandom, hpersona, hlocation]
  rfl

/-! ## Beginning -/

/-- A game that begins goes on from its opening. -/
theorem begin_eq_mapError_arrive (hpersona : game.story.personas.get? persona = some ofPersona)
    (hlocation : game.story.locations.get? location = some ofLocation) :
    (game.begin persona location).value =
      (game.story.arrive game.settings.maxHops
        (game.opening persona location ofPersona ofLocation)).value.mapError .routing := by
  simp [begin, hpersona, hlocation]

/-- With a persona and a location of the story, only moving on can fail. -/
theorem begin_ne_unknown (hpersona : game.story.personas.get? persona = some ofPersona)
    (hlocation : game.story.locations.get? location = some ofLocation) (name : String) :
    (game.begin persona location).value ≠ .error (.unknownPersona name) ∧
      (game.begin persona location).value ≠ .error (.unknownLocation name) := by
  rw [begin_eq_mapError_arrive hpersona hlocation]
  cases (game.story.arrive game.settings.maxHops
    (game.opening persona location ofPersona ofLocation)).value with
  | ok s => exact ⟨nofun, nofun⟩
  | error e => exact ⟨nofun, nofun⟩

/-- In a game of a story that passed validation a drawn persona at a drawn location is one of the
story, so that a drawn game begins as theirs, and neither is ever unknown.  For given names a game
does not begin if the persona is unknown, or else if the location is.  Otherwise it is what the
story comes to from the one opening there is. -/
theorem begins_as_authored (hstory : Story.ofDocument? doc = .ok game.story) :
    (∃ persona location ofPersona ofLocation, game.story.personas.get? persona = some ofPersona ∧
      game.story.locations.get? location = some ofLocation ∧
      game.beginRandom.value.result = (game.begin persona location).value) ∧
    (∀ name, game.beginRandom.value.result ≠ .error (.unknownPersona name) ∧
      game.beginRandom.value.result ≠ .error (.unknownLocation name)) ∧
    ∀ persona location,
      (game.story.personas.get? persona = none →
        (game.begin persona location).value = .error (.unknownPersona persona)) ∧
      ∀ ofPersona, game.story.personas.get? persona = some ofPersona →
        (game.story.locations.get? location = none →
          (game.begin persona location).value = .error (.unknownLocation location)) ∧
        ∀ ofLocation, game.story.locations.get? location = some ofLocation →
          ∃ s, (∀ other, game.IsOpening persona location ofPersona ofLocation other ↔ other = s) ∧
            (game.begin persona location).value =
              (game.story.arrive game.settings.maxHops s).value.mapError .routing := by
  obtain ⟨hwell, hdoc, -⟩ := Story.ofDocument?_eq_ok_iff.mp hstory
  obtain ⟨persona, location, ofPersona, ofLocation, hpersona, hlocation, hdrawn⟩ :=
    @exists_begin_of_beginRandom game
      (Table.isEmpty_eq_false_iff.mpr (hdoc ▸ hwell.hasPersona))
      (Table.isEmpty_eq_false_iff.mpr (hdoc ▸ hwell.hasLocation))
  refine ⟨⟨persona, location, ofPersona, ofLocation, hpersona, hlocation, hdrawn⟩, ?_, ?_⟩
  · intro name
    rw [hdrawn]
    exact begin_ne_unknown hpersona hlocation name
  · intro persona location
    refine ⟨begin_unknownPersona location, fun ofPersona hpersona =>
      ⟨begin_unknownLocation hpersona, fun ofLocation hlocation => ?_⟩⟩
    exact ⟨_, fun other => isOpening_iff, begin_eq_mapError_arrive hpersona hlocation⟩

/-- Far more safety for an elder than there can be, and surge awareness that does not count. -/
def ofElder : Adjustment where
  amounts := .ofList [("S", 8), ("SA", 2)]

/-- A little less safety at the coast, and some surge awareness. -/
def ofCoast : Adjustment where
  amounts := .ofList [("S", -1), ("SA", 1)]

/-- A story at the coast, where safety is five at first. -/
def coastDocument : Document :=
  { Document.plain [("SHORE", .narrative ⟨none, ∅, ∅⟩ none none)] [] with
    system := { SystemSection.plain with initialValues := .ofList [("S", 5)] }
    personas := .ofList [("Elder", ofElder), ("Worker", .none)]
    locations := .ofList [("Coastal", ofCoast)] }

/-- A game at the coast, where bounds go from zero to ten. -/
def coastGame : Game where
  story := { coastDocument with bounds := .uniform ⟨0, 10⟩ }
  settings := { startNode := "SHORE" }
  source := .scripted []

/-- The document is a story. -/
theorem ofDocument?_coastDocument : Story.ofDocument? coastDocument = .ok coastGame.story := by
  refine Story.ofDocument?_eq_ok_iff.mpr ⟨?_, rfl, fun stat => ?_⟩
  · exact Document.defect?_eq_none_iff.mp (by decide +kernel)
  · rw [← SystemSection.bounds?_eq_some_iff]
    cases stat <;> decide +kernel

/-- The elder's safety is moved to the upper end before the coast takes one from it, and only the
coast gives surge awareness.  The game goes on from there; for an unknown persona it does not begin,
wherever that is, and a drawn game is that of the elder or the worker. -/
theorem begins_as_authored_at_coast :
    Story.ofDocument? coastDocument = .ok coastGame.story ∧
    (∃ s, coastGame.IsOpening "Elder" "Coastal" ofElder ofCoast s ∧
      (s.value .safety).toInt = 9 ∧ (s.value .surgeAwareness).toInt = 1 ∧
      (coastGame.begin "Elder" "Coastal").value =
        (coastGame.story.arrive 256 s).value.mapError .routing) ∧
    (coastGame.begin "Nobody" "Nowhere").value = .error (.unknownPersona "Nobody") ∧
    (coastGame.begin "Elder" "Nowhere").value = .error (.unknownLocation "Nowhere") ∧
    ∃ persona ∈ ["Elder", "Worker"], ∃ location ∈ ["Coastal"],
      coastGame.beginRandom.value.result = (coastGame.begin persona location).value := by
  have helder : coastGame.story.personas.get? "Elder" = some ofElder := by decide +kernel
  have hcoast : coastGame.story.locations.get? "Coastal" = some ofCoast := by decide +kernel
  obtain ⟨hrandom, -, hbegin⟩ := begins_as_authored ofDocument?_coastDocument
  refine ⟨ofDocument?_coastDocument, ?_, ?_, ?_, ?_⟩
  · obtain ⟨s, hopening, hresult⟩ := ((hbegin "Elder" "Coastal").2 _ helder).2 _ hcoast
    have hs := (hopening s).mpr rfl
    refine ⟨s, hs, ?_, ?_, hresult⟩
    · rw [hs.statusVariable .safety (by decide)]
      decide +kernel
    · rw [hs.skill .surgeAwareness (by decide)]
      decide +kernel
  · exact (hbegin "Nobody" "Nowhere").1 (by decide +kernel)
  · exact ((hbegin "Elder" "Nowhere").2 _ helder).1 (by decide +kernel)
  · obtain ⟨persona, location, ofPersona, ofLocation, hpersona, hlocation, hdrawn⟩ := hrandom
    refine ⟨persona, ?_, location, ?_, hdrawn⟩
    · exact Table.mem_keys_iff.mpr (Option.isSome_iff_exists.mpr ⟨_, hpersona⟩)
    · exact Table.mem_keys_iff.mpr (Option.isSome_iff_exists.mpr ⟨_, hlocation⟩)

end Game
end BranchingStory
