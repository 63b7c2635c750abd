import BranchingStory.Story.Decode

/-!
# Which documents are stories

The bounds of a stat belong in one of two sections, the skills or the status variables, and count
from the other section only if its own has none.  A document is well formed if every stat finds
bounds in this way, with the ends of what it finds first in order, and if there are a persona and a
location.  Validation accepts exactly these documents and changes nothing in them.  What it refuses
has the defect that comes first: the stats in canonical order, then the personas, then the
locations.

Main results:

- `SystemSection.bounds?_eq_some_iff`: the bounds that are found first.
- `Document.defect?_eq_none_iff`, `Document.defect?_eq_some_iff`: when there is a defect, and which
  comes first.
- `Story.accepts_exactly_well_formed`: what validation accepts, what it gives and what it reports.
-/

namespace BranchingStory

/-- A table without entries has no value for any key. -/
theorem Table.isEmpty_iff {α : Type} {t : Table α} :
    t.isEmpty = true ↔ ∀ key, t.get? key = none := by
  rw [isEmpty, List.isEmpty_iff]
  constructor
  · intro hnil key
    rw [get?, hnil, List.lookup_nil]
  · intro hnone
    refine List.eq_nil_iff_forall_not_mem.mpr fun ⟨key, value⟩ hmem => ?_
    rw [mem_toList_iff, hnone] at hmem
    cases hmem

/-- A table with entries has a value for some key. -/
theorem Table.isEmpty_eq_false_iff {α : Type} {t : Table α} :
    t.isEmpty = false ↔ ∃ key value, t.get? key = some value := by
  rw [← Bool.not_eq_true, isEmpty_iff]
  simp only [Classical.not_forall, Option.ne_none_iff_exists']

variable {doc : Document} {system : SystemSection} {stat : Stat} {bounds : Bounds}
  {defect : Defect}

/-! ## Bounds of one stat -/

namespace SystemSection

/-- The section that the bounds of a stat belong in. -/
def ownSection (system : SystemSection) (stat : Stat) : Table Bounds :=
  if stat ∈ Stat.skills then system.skillBounds else system.variableBounds

/-- The section that counts for a stat if its own has no bounds for it. -/
def otherSection (system : SystemSection) (stat : Stat) : Table Bounds :=
  if stat ∈ Stat.skills then system.variableBounds else system.skillBounds

/-- The stat finds these bounds first. -/
def Finds (system : SystemSection) (stat : Stat) (bounds : Bounds) : Prop :=
  (system.ownSection stat).get? stat.key = some bounds ∨
    (system.ownSection stat).get? stat.key = none ∧
      (system.otherSection stat).get? stat.key = some bounds

/-- The stat finds bounds, and the ends of those that it finds first are in order. -/
def IsBounded (system : SystemSection) (stat : Stat) : Prop :=
  ∃ bounds, system.Finds stat bounds ∧ bounds.min ≤ bounds.max

/-- The bounds that are looked up are those that are found first. -/
theorem bounds?_eq_some_iff : system.bounds? stat = some bounds ↔ system.Finds stat bounds := by
  have hsections : system.bounds? stat =
      ((system.ownSection stat).get? stat.key).or ((system.otherSection stat).get? stat.key) := by
    by_cases hskill : stat ∈ Stat.skills
    · simp [bounds?, ownSection, otherSection, hskill, Stat.isSkill_iff]
    · simp [bounds?, ownSection, otherSection, hskill, Stat.isSkill_iff]
  rw [hsections, Option.or_eq_some_iff]
  rfl

/-- No stat finds two bounds first. -/
theorem Finds.unique {other : Bounds} (h : system.Finds stat bounds)
    (hother : system.Finds stat other) : bounds = other := by
  rw [← bounds?_eq_some_iff] at h hother
  exact Option.some.inj (h.symm.trans hother)

/-- A stat has no bounds exactly if none are found for it. -/
theorem bounds?_eq_none_iff :
    system.bounds? stat = none ↔ ∀ bounds, ¬ system.Finds stat bounds := by
  simp only [Option.eq_none_iff_forall_ne_some, ne_eq, bounds?_eq_some_iff]

/-- The defect of a stat: it finds no bounds, or their ends are out of order. -/
theorem boundsDefect?_eq_some_iff : system.boundsDefect? stat = some defect ↔
    (∀ bounds, ¬ system.Finds stat bounds) ∧ defect = .missingBounds stat ∨
      ∃ bounds, system.Finds stat bounds ∧ bounds.max < bounds.min ∧
        defect = .invertedBounds stat bounds := by
  rw [← bounds?_eq_none_iff]
  simp only [← bounds?_eq_some_iff]
  unfold boundsDefect?
  cases system.bounds? stat with
  | none => simp [eq_comm]
  | some bounds => simp [eq_comm]

/-- A stat without a defect finds bounds with their ends in order. -/
theorem boundsDefect?_eq_none_iff : system.boundsDefect? stat = none ↔ system.IsBounded stat := by
  simp only [IsBounded, ← bounds?_eq_some_iff]
  unfold boundsDefect?
  cases system.bounds? stat with
  | none => simp
  | some bounds => simp

end SystemSection

/-! ## Documents -/

namespace Document

/-- Every stat has bounds, and somebody can begin somewhere. -/
structure IsWellFormed (doc : Document) : Prop where
  isBounded : ∀ stat, doc.system.IsBounded stat
  hasPersona : ∃ persona adjustment, doc.personas.get? persona = some adjustment
  hasLocation : ∃ location adjustment, doc.locations.get? location = some adjustment

/-- The defect of a document that comes first.  Before a stat there are those that stand before it
in the canonical order, before the personas there are all stats, and the locations are last. -/
inductive FirstDefect (doc : Document) : Defect → Prop
  | missingBounds {before after : List Stat} {stat : Stat}
      (horder : Stat.all = before ++ stat :: after)
      (hbefore : ∀ other ∈ before, doc.system.IsBounded other)
      (hmissing : ∀ bounds, ¬ doc.system.Finds stat bounds) :
      FirstDefect doc (.missingBounds stat)
  | invertedBounds {before after : List Stat} {stat : Stat} {bounds : Bounds}
      (horder : Stat.all = before ++ stat :: after)
      (hbefore : ∀ other ∈ before, doc.system.IsBounded other)
      (hfinds : doc.system.Finds stat bounds) (hinverted : bounds.max < bounds.min) :
      FirstDefect doc (.invertedBounds stat bounds)
  | noPersonas (hbounded : ∀ stat, doc.system.IsBounded stat)
      (hnobody : ∀ persona, doc.personas.get? persona = none) :
      FirstDefect doc .noPersonas
  | noLocations {persona : String} {adjustment : Adjustment}
      (hbounded : ∀ stat, doc.system.IsBounded stat)
      (hsomebody : doc.personas.get? persona = some adjustment)
      (hnowhere : ∀ location, doc.locations.get? location = none) :
      FirstDefect doc .noLocations

/-- The search through the stats finds nothing if all of them are bounded. -/
theorem findSome?_boundsDefect?_eq_none_iff :
    Stat.all.findSome? doc.system.boundsDefect? = none ↔
      ∀ stat, doc.system.IsBounded stat := by
  rw [List.findSome?_eq_none_iff]
  simp only [Stat.mem_all, true_imp_iff, SystemSection.boundsDefect?_eq_none_iff]

/-- A document has no defect exactly if it is well-formed. -/
theorem defect?_eq_none_iff : doc.defect? = none ↔ doc.IsWellFormed := by
  rw [defect?, Option.or_eq_none_iff, findSome?_boundsDefect?_eq_none_iff]
  constructor
  · rintro ⟨hbounded, htables⟩
    split at htables
    · cases htables
    rename_i hpersonas
    split at htables
    · cases htables
    rename_i hlocations
    rw [Bool.not_eq_true, Table.isEmpty_eq_false_iff] at hpersonas hlocations
    exact ⟨hbounded, hpersonas, hlocations⟩
  · rintro ⟨hbounded, hpersonas, hlocations⟩
    rw [← Table.isEmpty_eq_false_iff] at hpersonas hlocations
    refine ⟨hbounded, ?_⟩
    rw [hpersonas, hlocations]
    rfl

/-- The defect that is reported is the first one. -/
theorem defect?_eq_some_iff : doc.defect? = some defect ↔ doc.FirstDefect defect := by
  rw [defect?, Option.or_eq_some_iff, List.findSome?_eq_some_iff,
    findSome?_boundsDefect?_eq_none_iff]
  simp only [SystemSection.boundsDefect?_eq_some_iff, SystemSection.boundsDefect?_eq_none_iff]
  constructor
  · rintro (⟨before, stat, after, horder, hdefect, hbefore⟩ | ⟨hbounded, htables⟩)
    · rcases hdefect with ⟨hmissing, rfl⟩ | ⟨bounds, hfinds, hinverted, rfl⟩
      · exact .missingBounds horder hbefore hmissing
      · exact .invertedBounds horder hbefore hfinds hinverted
    · split at htables
      · rename_i hpersonas
        cases htables
        exact .noPersonas hbounded (Table.isEmpty_iff.mp hpersonas)
      rename_i hpersonas
      rw [Bool.not_eq_true, Table.isEmpty_eq_false_iff] at hpersonas
      obtain ⟨persona, adjustment, hpersona⟩ := hpersonas
      split at htables
      · rename_i hlocations
        cases htables
        exact .noLocations hbounded hpersona (Table.isEmpty_iff.mp hlocations)
      · cases htables
  · intro h
    cases h with
    | @missingBounds before after stat horder hbefore hmissing =>
        exact Or.inl ⟨before, stat, after, horder, Or.inl ⟨hmissing, rfl⟩, hbefore⟩
    | @invertedBounds before after stat bounds horder hbefore hfinds hinverted =>
        exact Or.inl ⟨before, stat, after, horder, Or.inr ⟨bounds, hfinds, hinverted, rfl⟩, hbefore⟩
    | noPersonas hbounded hnobody =>
        rw [Table.isEmpty_iff.mpr hnobody]
        exact Or.inr ⟨hbounded, rfl⟩
    | noLocations hbounded hsomebody hnowhere =>
        rw [Table.isEmpty_eq_false_iff.mpr ⟨_, _, hsomebody⟩, Table.isEmpty_iff.mpr hnowhere]
        exact Or.inr ⟨hbounded, rfl⟩

end Document

/-! ## Stories -/

namespace Story

variable {story : Story} {text : String} {j : Json}

theorem ofDocument?_eq_error_iff : ofDocument? doc = .error defect ↔ doc.defect? = some defect := by
  unfold ofDocument?
  cases doc.defect? with
  | none => simp
  | some found => simp

/-- What a story is made of. -/
theorem ofDocument?_eq_ok_iff : ofDocument? doc = .ok story ↔
    doc.IsWellFormed ∧ story.toDocument = doc ∧
      ∀ stat, doc.system.Finds stat (story.bounds.get stat) := by
  rw [← Document.defect?_eq_none_iff]
  unfold ofDocument?
  cases hdefect : doc.defect? with
  | some found => simp
  | none =>
      have hwell := Document.defect?_eq_none_iff.mp hdefect
      have hfinds : ∀ stat, doc.system.Finds stat ((doc.system.bounds? stat).getD ⟨0, 0⟩) := by
        intro stat
        obtain ⟨bounds, hbounds, -⟩ := hwell.isBounded stat
        rwa [SystemSection.bounds?_eq_some_iff.mpr hbounds]
      constructor
      · intro h
        cases h
        simpa using hfinds
      · rintro ⟨-, rfl, hstory⟩
        have hbounds : PerStat.ofFn (fun stat => (story.system.bounds? stat).getD ⟨0, 0⟩) =
            story.bounds := by
          apply PerStat.ext_get
          intro stat
          rw [PerStat.get_ofFn]
          exact (hfinds stat).unique (hstory stat)
        rw [hbounds]

/-- The story in a text is that of the document that the text is decoded to. -/
theorem load_eq_mapError (hread : Json.read? text = some j)
    (hdecoded : Document.ofJson? j = some doc) :
    load text = (ofDocument? doc).mapError .invalid := by
  unfold load ofJson?
  rw [hread]
  dsimp only
  rw [hdecoded]
  dsimp only
  cases ofDocument? doc with
  | ok story => rfl
  | error defect => rfl

/-- A loaded story is that of a document. -/
theorem exists_ofDocument?_of_load (h : load text = .ok story) :
    ∃ doc, ofDocument? doc = .ok story := by
  unfold load ofJson? at h
  split at h
  · cases h
  split at h
  · cases h
  rename_i doc _
  split at h
  · cases h
  · rename_i hdoc
    cases h
    exact ⟨doc, hdoc⟩

/-- A document is a story exactly if it is well formed.  The story has all sections of the document;
its bounds are those that each stat finds first, and its initial values are moved into them.  Any
other document is refused for the defect that comes first.  Loading a text does this with what is
decoded from it. -/
theorem accepts_exactly_well_formed (doc : Document) :
    ((∃ story, ofDocument? doc = .ok story) ↔ doc.IsWellFormed) ∧
    (∀ story, ofDocument? doc = .ok story → story.toDocument = doc ∧
      ∀ stat, doc.system.Finds stat (story.bounds.get stat) ∧
        (story.initialStats.get stat).toInt =
          min (max ((doc.system.initialValues.get? stat.key).getD 0).toInt
            (story.bounds.get stat).min.toInt) (story.bounds.get stat).max.toInt) ∧
    (∀ defect, ofDocument? doc = .error defect ↔ doc.FirstDefect defect) ∧
    ∀ text j, Json.read? text = some j → Document.ofJson? j = some doc →
      load text = (ofDocument? doc).mapError .invalid := by
  refine ⟨⟨?_, ?_⟩, ?_, ?_, ?_⟩
  · rintro ⟨story, hstory⟩
    exact (ofDocument?_eq_ok_iff.mp hstory).1
  · intro hwell
    cases hresult : ofDocument? doc with
    | ok story => exact ⟨story, rfl⟩
    | error defect =>
        rw [ofDocument?_eq_error_iff, Document.defect?_eq_none_iff.mpr hwell] at hresult
        cases hresult
  · intro story hstory
    obtain ⟨-, rfl, hfinds⟩ := ofDocument?_eq_ok_iff.mp hstory
    refine ⟨rfl, fun stat => ⟨hfinds stat, ?_⟩⟩
    rw [initialStats, PerStat.get_ofFn, Bounds.toInt_clamp]
  · intro defect
    rw [ofDocument?_eq_error_iff, Document.defect?_eq_some_iff]
  · intro text j hread hdecoded
    exact load_eq_mapError hread hdecoded

/-- A document in which the sections overlap: safety has bounds among the skills only, and surge
awareness has bounds in both, of which those among the status variables are out of order. -/
def overlapping : Document where
  version := none
  system := {
    variableBounds := .ofList [("R", ⟨0, 10⟩), ("M", ⟨0, 10⟩), ("SC", ⟨-5, 5⟩), ("HR", ⟨0, 5⟩),
      ("SA", ⟨4, 3⟩)]
    skillBounds := .ofList [("SA", ⟨0, 3⟩), ("FM", ⟨0, 3⟩), ("LA", ⟨1, 3⟩), ("S", ⟨0, 8⟩)]
    initialValues := .ofList [("S", 9), ("SC", -9), ("M", 4)] }
  personas := .ofList [("Student", .none)]
  locations := .ofList [("River", .none)]
  personaInfo := ∅
  locationInfo := ∅
  nodes := ∅
  outcomes := []
  rubric := ⟨[], 0⟩

/-- The same without a persona and without bounds for the last skill; the bounds of mobility are out
of order, although there are others among the skills that are in order. -/
def overlappingBroken : Document :=
  { overlapping with
    system := { overlapping.system with
      variableBounds := overlapping.system.variableBounds.set "M" ⟨7, 2⟩
      skillBounds := .ofList [("SA", ⟨0, 3⟩), ("FM", ⟨0, 3⟩), ("S", ⟨0, 8⟩), ("M", ⟨0, 10⟩)] }
    personas := ∅ }

/-- The overlapping document is a story with the bounds that come first, into which the initial
values are moved; the broken one is refused for the first of its three defects. -/
theorem accepts_exactly_overlapping :
    overlapping.IsWellFormed ∧
    (∃ story, ofDocument? overlapping = .ok story ∧ story.toDocument = overlapping ∧
      story.bounds.get .surgeAwareness = ⟨0, 3⟩ ∧ story.bounds.get .safety = ⟨0, 8⟩ ∧
      (story.initialStats.get .surgeAwareness).toInt = 0 ∧
      (story.initialStats.get .safety).toInt = 8) ∧
    ofDocument? overlappingBroken = .error (.invertedBounds .mobility ⟨7, 2⟩) ∧
    overlappingBroken.FirstDefect (.invertedBounds .mobility ⟨7, 2⟩) := by
  have hwell : overlapping.IsWellFormed := Document.defect?_eq_none_iff.mp (by decide +kernel)
  have hbroken : ofDocument? overlappingBroken = .error (.invertedBounds .mobility ⟨7, 2⟩) :=
    ofDocument?_eq_error_iff.mpr (by decide +kernel)
  obtain ⟨haccepts, hgives, -, -⟩ := accepts_exactly_well_formed overlapping
  obtain ⟨-, -, hrefuses, -⟩ := accepts_exactly_well_formed overlappingBroken
  obtain ⟨story, hstory⟩ := haccepts.mpr hwell
  obtain ⟨hdocument, hstats⟩ := hgives story hstory
  obtain ⟨hfindsSurge, hinitialSurge⟩ := hstats .surgeAwareness
  obtain ⟨hfindsSafety, hinitialSafety⟩ := hstats .safety
  have hsurge : story.bounds.get .surgeAwareness = ⟨0, 3⟩ :=
    hfindsSurge.unique (Or.inl (by decide +kernel))
  have hsafety : story.bounds.get .safety = ⟨0, 8⟩ :=
    hfindsSafety.unique (Or.inr ⟨by decide +kernel, by decide +kernel⟩)
  refine ⟨hwell, ⟨story, hstory, hdocument, hsurge, hsafety, ?_, ?_⟩, hbroken,
    (hrefuses _).mp hbroken⟩
  · rw [hinitialSurge, hsurge]
    decide +kernel
  · rw [hinitialSafety, hsafety]
    decide +kernel

end Story
end BranchingStory
