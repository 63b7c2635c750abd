/-!
# Tables sorted by key

A `Table α` maps finitely many strings to values.  Its entries are kept with strictly increasing
keys, so every listing of a table is in the order of its keys.  Setting a key that is present
replaces its value.

Main results:

- `Table.get?_set`: the look-up law of `set`.
- `Table.mem_toList_iff`: an entry is listed exactly if its key looks up to its value.
- `Table.get?_filterKeys`: a restricted table looks up the keys that pass the test.
-/

namespace BranchingStory

/-- A finite map from strings to values, listed by increasing key. -/
structure Table (α : Type) where
  /-- The entries by increasing key. -/
  toList : List (String × α)
  /-- Each key is smaller than all later ones. -/
  ordered : toList.Pairwise fun a b => a.1 < b.1
deriving DecidableEq, Repr

namespace Table

variable {α β : Type}

/-- The table without entries. -/
def empty : Table α where
  toList := []
  ordered := List.Pairwise.nil

instance : EmptyCollection (Table α) := ⟨empty⟩
instance : Inhabited (Table α) := ⟨empty⟩

/-- Whether there is no entry. -/
def isEmpty (t : Table α) : Bool :=
  t.toList.isEmpty

/-- Number of entries. -/
def size (t : Table α) : Nat :=
  t.toList.length

/-- The keys in increasing order. -/
def keys (t : Table α) : List String :=
  t.toList.map Prod.fst

/-- The values in the order of their keys. -/
def values (t : Table α) : List α :=
  t.toList.map Prod.snd

/-- The value of a key. -/
def get? (t : Table α) (key : String) : Option α :=
  t.toList.lookup key

/-! ## Setting a key -/

/-- Give a key a value in a list of entries with increasing keys. -/
def setIn (key : String) (value : α) : List (String × α) → List (String × α)
  | [] => [(key, value)]
  | (other, old) :: rest =>
      if key < other then (key, value) :: (other, old) :: rest
      else if other < key then (other, old) :: setIn key value rest
      else (key, value) :: rest

/-- An entry after setting a key is the new one or an old one. -/
theorem fst_mem_setIn {key : String} {value : α} {l : List (String × α)} {e : String × α}
    (h : e ∈ setIn key value l) : e.1 = key ∨ e ∈ l := by
  induction l with
  | nil =>
      simp only [setIn, List.mem_singleton] at h
      exact Or.inl (by rw [h])
  | cons other rest ih =>
      simp only [setIn] at h
      split at h
      · rcases List.mem_cons.mp h with h | h
        · exact Or.inl (by rw [h])
        · exact Or.inr h
      · split at h
        · rcases List.mem_cons.mp h with h | h
          · exact Or.inr (h ▸ List.mem_cons_self)
          · exact (ih h).imp id (List.mem_cons_of_mem _)
        · rcases List.mem_cons.mp h with h | h
          · exact Or.inl (by rw [h])
          · exact Or.inr (List.mem_cons_of_mem _ h)

/-- Setting a key keeps the keys increasing. -/
theorem pairwise_setIn {key : String} {value : α} {l : List (String × α)}
    (h : l.Pairwise fun a b => a.1 < b.1) :
    (setIn key value l).Pairwise fun a b => a.1 < b.1 := by
  induction l with
  | nil => simp [setIn]
  | cons other rest ih =>
      obtain ⟨hhead, htail⟩ := List.pairwise_cons.mp h
      simp only [setIn]
      split
      · rename_i hlt
        refine List.pairwise_cons.mpr ⟨fun e he => ?_, h⟩
        rcases List.mem_cons.mp he with rfl | he
        · exact hlt
        · exact String.lt_trans hlt (hhead e he)
      · split
        · rename_i hlt
          refine List.pairwise_cons.mpr ⟨fun e he => ?_, ih htail⟩
          rcases fst_mem_setIn he with heq | he
          · exact heq ▸ hlt
          · exact hhead e he
        · have heq : key = other.1 :=
            String.le_antisymm (String.not_lt.mp ‹_›) (String.not_lt.mp ‹_›)
          exact List.pairwise_cons.mpr ⟨fun e he => heq ▸ hhead e he, htail⟩

/-- The first entry answers for its own key only. -/
theorem lookup_entry {x : String} (entry : String × α) (rest : List (String × α)) :
    (entry :: rest).lookup x = if x = entry.1 then some entry.2 else rest.lookup x := by
  obtain ⟨key, value⟩ := entry
  rw [List.lookup_cons]
  by_cases hx : x = key
  · simp [hx]
  · simp [hx, beq_eq_false_iff_ne.mpr hx]

/-- After setting a key, it has the new value and every other key the old one. -/
theorem lookup_setIn {key x : String} {value : α} (l : List (String × α)) :
    (setIn key value l).lookup x = if x = key then some value else l.lookup x := by
  induction l with
  | nil => exact lookup_entry (key, value) []
  | cons other rest ih =>
      simp only [setIn]
      split
      · exact lookup_entry (key, value) (other :: rest)
      · split
        · rename_i hlt
          rw [lookup_entry, lookup_entry, ih]
          by_cases hx : x = other.1
          · have hne : x ≠ key := fun h =>
              String.lt_irrefl key (by rw [← hx, h] at hlt; exact hlt)
            rw [if_pos hx, if_neg hne, if_pos hx]
          · rw [if_neg hx, if_neg hx]
        · have heq : key = other.1 :=
            String.le_antisymm (String.not_lt.mp ‹_›) (String.not_lt.mp ‹_›)
          rw [lookup_entry, lookup_entry, ← heq]
          by_cases hx : x = key
          · rw [if_pos hx, if_pos hx]
          · rw [if_neg hx, if_neg hx, if_neg hx]

/-- Give a key a value, replacing the value it has. -/
def set (t : Table α) (key : String) (value : α) : Table α where
  toList := setIn key value t.toList
  ordered := pairwise_setIn t.ordered

/-- After `set` the key has the new value and every other key its old one. -/
@[simp]
theorem get?_set (t : Table α) (key x : String) (value : α) :
    (t.set key value).get? x = if x = key then some value else t.get? x :=
  lookup_setIn t.toList

@[simp]
theorem get?_empty (key : String) : (∅ : Table α).get? key = none :=
  rfl

/-- The table of a list of entries, where the last entry of a key counts. -/
def ofList (entries : List (String × α)) : Table α :=
  entries.foldl (fun t e => t.set e.1 e.2) ∅

/-! ## Look-ups and listings -/

/-- With increasing keys, an entry is found by its key. -/
theorem lookup_eq_some_iff {l : List (String × α)} (h : l.Pairwise fun a b => a.1 < b.1)
    {key : String} {value : α} : l.lookup key = some value ↔ (key, value) ∈ l := by
  induction l with
  | nil => simp
  | cons e rest ih =>
      obtain ⟨hhead, htail⟩ := List.pairwise_cons.mp h
      rw [lookup_entry, List.mem_cons]
      by_cases hkey : key = e.1
      · have hnot : (key, value) ∉ rest := fun hmem =>
          String.lt_irrefl key (by
            have := hhead _ hmem
            rw [← hkey] at this
            exact this)
        rw [if_pos hkey, Option.some.injEq]
        constructor
        · rintro rfl
          exact Or.inl (Prod.ext hkey rfl)
        · rintro (heq | hmem)
          · exact (congrArg Prod.snd heq).symm
          · exact absurd hmem hnot
      · have hne : (key, value) ≠ e := fun heq => hkey (congrArg Prod.fst heq)
        rw [if_neg hkey, ih htail]
        simp [hne]

/-- An entry is listed exactly if its key looks up to its value. -/
theorem mem_toList_iff {t : Table α} {key : String} {value : α} :
    (key, value) ∈ t.toList ↔ t.get? key = some value :=
  (lookup_eq_some_iff t.ordered).symm

/-- A key is listed exactly if it has a value. -/
theorem mem_keys_iff {t : Table α} {key : String} : key ∈ t.keys ↔ (t.get? key).isSome := by
  rw [Option.isSome_iff_exists]
  simp only [keys, List.mem_map, Prod.exists, exists_and_right, exists_eq_right, mem_toList_iff]

/-! ## Restriction -/

/-- The entries whose key satisfies a test. -/
def filterKeys (t : Table α) (test : String → Bool) : Table α where
  toList := t.toList.filter fun e => test e.1
  ordered := t.ordered.filter _

/-- A restricted table looks up the keys that pass the test. -/
theorem get?_filterKeys (t : Table α) (test : String → Bool) (key : String) :
    (t.filterKeys test).get? key = if test key then t.get? key else none := by
  apply Option.ext
  intro value
  rw [← mem_toList_iff]
  by_cases hkey : test key
  · simp [filterKeys, hkey, mem_toList_iff]
  · simp [filterKeys, hkey]

end Table
end BranchingStory
