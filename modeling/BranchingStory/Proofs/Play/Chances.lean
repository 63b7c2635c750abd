import BranchingStory.Play.Chance

/-!
# What a chance table gives

A chance table gives one effect of an entry that is eligible where the playthrough is, or nothing if
no entry is.  Among the eligible entries a draw selects one by its place; this entry stands in the
table behind as many eligible ones.

Main results:

- `Chance.exists_of_getElem?_eligible`: places among the eligible entries and places in the table.
- `Chance.gives_apply`: what comes of a table.
- `Chance.applies_one_eligible`: the playthrough, the position and the source after a table.
-/

namespace BranchingStory

/-- An entry of a chance table is eligible: it has no condition, or its condition holds. -/
def ChanceEntry.IsEligible (entry : ChanceEntry) (s : Playthrough) : Prop :=
  ∀ condition, entry.condition = some condition → holds s condition = true

/-- The test of an entry says whether it is eligible. -/
theorem ChanceEntry.isEligible_iff {entry : ChanceEntry} {s : Playthrough} :
    (testingOr true s entry.condition).value = true ↔ entry.IsEligible s := by
  unfold IsEligible
  cases entry.condition <;> simp

instance (entry : ChanceEntry) (s : Playthrough) : Decidable (entry.IsEligible s) :=
  decidable_of_iff _ ChanceEntry.isEligible_iff

namespace Chance

variable {α : Type} {bounds : PerStat Bounds} {s : Playthrough} {table : List ChanceEntry}
  {source : Source} {entry : ChanceEntry} {i k : Nat}

/-- What comes of a table for a source. -/
inductive Gives (bounds : PerStat Bounds) (s : Playthrough) (table : List ChanceEntry)
    (source : Source) : Outcome → Prop
  /-- No entry is eligible, and nothing is drawn. -/
  | nothing (hnone : ∀ entry ∈ table, ¬ entry.IsEligible s) :
      Gives bounds s table source ⟨none, s.stats, source⟩
  /-- The entry at `k` is eligible and has as many eligible entries before it as the draw says. -/
  | effect {entry : ChanceEntry} {i k : Nat} (hentry : table[k]? = some entry)
      (heligible : entry.IsEligible s)
      (hselect : select ((table.filter fun entry => entry.IsEligible s).map ChanceEntry.chance)
        (Source.fraction source.word) = some i)
      (hbefore : ((table.take k).filter fun entry => entry.IsEligible s).length = i) :
      Gives bounds s table source ⟨some k, entry.effect.applyTo bounds s.stats, source.next⟩

/-! ## Places -/

/-- An item that passes a test is among those that pass it, at the place that counts the items
before it that pass. -/
theorem exists_of_getElem?_filter_zipIdx (test : α → Bool) {l : List α} {n : Nat} {a : α}
    (h : ((l.zipIdx n).filter fun item => test item.1)[i]? = some (a, k)) :
    ∃ j, k = n + j ∧ l[j]? = some a ∧ test a = true ∧ ((l.take j).filter test).length = i := by
  induction l generalizing n i with
  | nil => simp at h
  | cons b l ih =>
      rw [List.zipIdx_cons, List.filter_cons] at h
      split at h
      · rename_i hb
        cases i with
        | zero =>
            cases h
            exact ⟨0, rfl, rfl, hb, rfl⟩
        | succ i =>
            obtain ⟨j, rfl, hj, ha, hcount⟩ := ih h
            exact ⟨j + 1, by omega, hj, ha, by simp [hb, hcount]⟩
      · rename_i hb
        obtain ⟨j, rfl, hj, ha, hcount⟩ := ih h
        exact ⟨j + 1, by omega, hj, ha, by simp [hb, hcount]⟩

/-- The entries that are found are the eligible ones, with their positions in the table. -/
theorem value_eligible (s : Playthrough) (table : List ChanceEntry) :
    (eligible s table).value = table.zipIdx.filter fun item => decide (item.1.IsEligible s) := by
  rw [eligible, Traced.value_filter]
  refine List.filter_congr fun item _ => ?_
  rw [Bool.eq_iff_iff, decide_eq_true_iff, ChanceEntry.isEligible_iff]

/-- Without their places, these are the eligible entries of the table. -/
theorem map_fst_eligible (s : Playthrough) (table : List ChanceEntry) :
    (eligible s table).value.map Prod.fst = table.filter fun entry => entry.IsEligible s := by
  conv => rhs; rw [← List.zipIdx_map_fst 0 table, List.filter_map]
  rw [value_eligible]
  rfl

/-- An eligible entry stands in the table behind the eligible ones that come before it. -/
theorem exists_of_getElem?_eligible (h : (eligible s table).value[i]? = some (entry, k)) :
    table[k]? = some entry ∧ entry.IsEligible s ∧
      ((table.take k).filter fun entry => entry.IsEligible s).length = i := by
  rw [value_eligible] at h
  obtain ⟨j, rfl, hentry, heligible, hbefore⟩ :=
    exists_of_getElem?_filter_zipIdx (fun entry : ChanceEntry => decide (entry.IsEligible s)) h
  rw [Nat.zero_add]
  exact ⟨hentry, of_decide_eq_true heligible, hbefore⟩

/-! ## Applying a table -/

/-- A draw that selects among the eligible entries selects one of them. -/
theorem exists_of_select (bounds : PerStat Bounds)
    (h : select ((eligible s table).value.map fun item => item.1.chance)
      (Source.fraction source.word) = some i) :
    ∃ entry k, (eligible s table).value[i]? = some (entry, k) ∧
      Gives bounds s table source ⟨some k, entry.effect.applyTo bounds s.stats, source.next⟩ := by
  have hlt := select_lt h
  rw [List.length_map] at hlt
  cases hitem : (eligible s table).value[i] with
  | mk entry k =>
      have hget : (eligible s table).value[i]? = some (entry, k) := by
        rw [List.getElem?_eq_getElem hlt, hitem]
      obtain ⟨hentry, heligible, hbefore⟩ := exists_of_getElem?_eligible hget
      refine ⟨entry, k, hget, .effect hentry heligible ?_ hbefore⟩
      rw [← map_fst_eligible, List.map_map]
      exact h

/-- A draw that selects nothing has no eligible entry to select. -/
theorem not_isEligible_of_select
    (h : select ((eligible s table).value.map fun item => item.1.chance)
      (Source.fraction source.word) = none) (hentry : entry ∈ table) : ¬ entry.IsEligible s := by
  intro heligible
  have hmem : entry ∈ (eligible s table).value.map Prod.fst := by
    rw [map_fst_eligible]
    exact List.mem_filter.mpr ⟨hentry, decide_eq_true heligible⟩
  obtain ⟨item, hitem, -⟩ := List.mem_map.mp hmem
  have hweights : (eligible s table).value.map (fun item => item.1.chance) ≠ [] :=
    List.ne_nil_of_mem (List.mem_map_of_mem hitem)
  have hsome := select_isSome hweights (Source.fraction source.word)
  rw [h] at hsome
  cases hsome

/-- What comes of a table is what it gives. -/
theorem gives_apply (bounds : PerStat Bounds) (s : Playthrough) (table : List ChanceEntry)
    (source : Source) : Gives bounds s table source (apply bounds s table source).value := by
  unfold apply
  split
  · rename_i hempty
    rw [List.isEmpty_iff.mp hempty]
    exact .nothing nofun
  · simp only [Traced.value_bind]
    split
    · rename_i hselect
      exact .nothing fun entry => not_isEligible_of_select hselect
    · rename_i i hselect
      obtain ⟨entry, k, hget, hgives⟩ := exists_of_select bounds hselect
      rw [hget]
      exact hgives

/-- A table without eligible entries does nothing and draws nothing.  Any other table takes one word
and makes the adjustment of one entry that is eligible before, and no other change.  Its position in
the whole table is reported; the draw selects it by the number of eligible entries before it. -/
theorem applies_one_eligible (bounds : PerStat Bounds) (s : Playthrough)
    (table : List ChanceEntry) (source : Source) :
    let outcome := (apply bounds s table source).value
    let after := { s with stats := outcome.stats }
    ((∀ entry ∈ table, ¬ entry.IsEligible s) →
      outcome.picked = none ∧ after = s ∧ outcome.source = source) ∧
    ((∃ entry ∈ table, entry.IsEligible s) →
      outcome.source = source.next ∧
      ∃ k entry, outcome.picked = some k ∧ table[k]? = some entry ∧ entry.IsEligible s ∧
        select ((table.filter fun entry => entry.IsEligible s).map ChanceEntry.chance)
            (Source.fraction source.word) =
          some ((table.take k).filter fun entry => entry.IsEligible s).length ∧
        after = s.adjust bounds entry.effect) := by
  have hgives := gives_apply bounds s table source
  dsimp only
  generalize (apply bounds s table source).value = outcome at hgives ⊢
  cases hgives with
  | nothing hnone =>
      refine ⟨fun _ => ⟨rfl, rfl, rfl⟩, ?_⟩
      rintro ⟨entry, hentry, heligible⟩
      exact absurd heligible (hnone entry hentry)
  | effect hentry heligible hselect hbefore =>
      refine ⟨fun hnone => ?_, fun _ => ⟨rfl, _, _, rfl, hentry, heligible, ?_, rfl⟩⟩
      · exact absurd heligible (hnone _ (List.mem_of_getElem? hentry))
      · rw [hselect, hbefore]

/-- A gust that comes as often as not. -/
def gust : ChanceEntry :=
  ⟨none, 0.5, ⟨.ofList [("S", 1)]⟩⟩

/-- A shelter that only the safe have. -/
def shelter : ChanceEntry :=
  ⟨some "S > 5", 1, .none⟩

/-- The same gust twice, behind a shelter and behind an entry whose condition is broken. -/
def gustyTable : List ChanceEntry :=
  [shelter, gust, ⟨some "S >", 1, .none⟩, gust]

/-- A draw of three quarters selects the second gust, and this is reported though the first one is
the same.  Where there is only the shelter, nothing is drawn. -/
theorem applies_one_eligible_gust :
    let s := Playthrough.start "N" "Student" "River" (.uniform 0)
    let source := Source.scripted [0xC000000000000000]
    let outcome := (apply (.uniform ⟨0, 10⟩) s gustyTable source).value
    (∃ entry ∈ gustyTable, entry.IsEligible s) ∧ outcome.source = source.next ∧
      outcome.picked = some 3 ∧
      { s with stats := outcome.stats } = s.adjust (.uniform ⟨0, 10⟩) gust.effect ∧
      (∀ entry ∈ [shelter], ¬ entry.IsEligible s) ∧
      (apply (.uniform ⟨0, 10⟩) s [shelter] source).value.source = source := by
  intro s source outcome
  have hgust : ∃ entry ∈ gustyTable, entry.IsEligible s := ⟨gust, by simp [gustyTable], nofun⟩
  have hshelter : ∀ entry ∈ [shelter], ¬ entry.IsEligible s := by decide +kernel
  obtain ⟨hsource, k, entry, hpicked, hentry, -, -, hafter⟩ :=
    (applies_one_eligible (.uniform ⟨0, 10⟩) s gustyTable source).2 hgust
  have hthird : outcome.picked = some 3 := by decide +kernel
  obtain rfl := Option.some.inj (hpicked.symm.trans hthird)
  obtain rfl := Option.some.inj (hentry.symm.trans (show gustyTable[3]? = some gust from rfl))
  exact ⟨hgust, hsource, hthird, hafter, hshelter,
    ((applies_one_eligible (.uniform ⟨0, 10⟩) s [shelter] source).1 hshelter).2.2⟩

end Chance
end BranchingStory
