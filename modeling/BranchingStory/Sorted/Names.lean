/-!
# Sorted sets of names

A `Names` value is a finite set of strings kept as a strictly increasing list.  The order is that of
code points.  Because the list is canonical, two sets with the same members are equal, and listing
a set needs no sorting.

Main results:

- `Names.ext_mem`: sets with the same members are equal.
- `Names.mem_insert`: insertion adds exactly one name.
-/

namespace BranchingStory

/-- A finite set of strings, listed in strictly increasing order. -/
structure Names where
  /-- The members in increasing order. -/
  toList : List String
  /-- Each member is smaller than all later ones. -/
  ordered : toList.Pairwise (· < ·)
deriving DecidableEq, Repr

namespace Names

/-- The set with no members. -/
def empty : Names where
  toList := []
  ordered := List.Pairwise.nil

instance : EmptyCollection Names := ⟨empty⟩
instance : Inhabited Names := ⟨empty⟩

instance : Membership String Names where
  mem s name := name ∈ s.toList

instance (name : String) (s : Names) : Decidable (name ∈ s) :=
  inferInstanceAs (Decidable (name ∈ s.toList))

/-- Number of members. -/
def size (s : Names) : Nat :=
  s.toList.length

@[simp]
theorem mem_toList {s : Names} {name : String} : name ∈ s.toList ↔ name ∈ s :=
  Iff.rfl

@[simp]
theorem not_mem_empty (name : String) : name ∉ (∅ : Names) :=
  List.not_mem_nil

/-! ## Insertion -/

/-- Place a name in an increasing list, unless it is there already. -/
def insertInto (name : String) : List String → List String
  | [] => [name]
  | other :: rest =>
      if name < other then name :: other :: rest
      else if other < name then other :: insertInto name rest
      else other :: rest

/-- Placing a name adds it and nothing else. -/
theorem mem_insertInto {name x : String} {l : List String} :
    x ∈ insertInto name l ↔ x = name ∨ x ∈ l := by
  induction l with
  | nil => simp [insertInto]
  | cons other rest ih =>
      simp only [insertInto]
      split
      · simp
      · split
        · simp only [List.mem_cons, ih]
          constructor
          · rintro (h | h | h) <;> simp [h]
          · rintro (h | h | h) <;> simp [h]
        · have heq : name = other :=
            String.le_antisymm (String.not_lt.mp ‹_›) (String.not_lt.mp ‹_›)
          simp [heq]

/-- Placing a name keeps the list increasing. -/
theorem pairwise_insertInto {name : String} {l : List String} (h : l.Pairwise (· < ·)) :
    (insertInto name l).Pairwise (· < ·) := by
  induction l with
  | nil => simp [insertInto]
  | cons other rest ih =>
      obtain ⟨hhead, htail⟩ := List.pairwise_cons.mp h
      simp only [insertInto]
      split
      · rename_i hlt
        refine List.pairwise_cons.mpr ⟨fun x hx => ?_, h⟩
        rcases List.mem_cons.mp hx with rfl | hx
        · exact hlt
        · exact String.lt_trans hlt (hhead x hx)
      · split
        · rename_i hlt
          refine List.pairwise_cons.mpr ⟨fun x hx => ?_, ih htail⟩
          rcases mem_insertInto.mp hx with rfl | hx
          · exact hlt
          · exact hhead x hx
        · exact h

/-- Add a name to the set. -/
def insert (s : Names) (name : String) : Names where
  toList := insertInto name s.toList
  ordered := pairwise_insertInto s.ordered

/-- Insertion adds exactly the inserted name. -/
@[simp]
theorem mem_insert {s : Names} {name x : String} : x ∈ s.insert name ↔ x = name ∨ x ∈ s :=
  mem_insertInto

/-- Add every name of a list, from the left. -/
def insertAll (s : Names) (names : List String) : Names :=
  names.foldl insert s

@[simp]
theorem mem_insertAll {s : Names} {names : List String} {x : String} :
    x ∈ s.insertAll names ↔ x ∈ names ∨ x ∈ s := by
  induction names generalizing s with
  | nil => simp [insertAll]
  | cons name rest ih =>
      have := ih (s := s.insert name)
      simp only [insertAll, List.foldl_cons] at this ⊢
      rw [this, mem_insert, List.mem_cons]
      constructor
      · rintro (h | h | h) <;> simp [h]
      · rintro ((h | h) | h) <;> simp [h]

/-- The set of the members of a list. -/
def ofList (names : List String) : Names :=
  empty.insertAll names

@[simp]
theorem mem_ofList {names : List String} {x : String} : x ∈ ofList names ↔ x ∈ names := by
  simp [ofList, show (empty : Names) = ∅ from rfl]

/-! ## Extensionality -/

/-- Sets with the same members are equal. -/
theorem ext_mem {s t : Names} (h : ∀ x, x ∈ s ↔ x ∈ t) : s = t := by
  obtain ⟨l, hl⟩ := s
  obtain ⟨m, hm⟩ := t
  have hperm : l.Perm m :=
    (List.perm_ext_iff_of_nodup (hl.imp String.ne_of_lt) (hm.imp String.ne_of_lt)).mpr h
  have heq : l = m :=
    hperm.eq_of_pairwise (fun a b _ _ hab hba => absurd hba (String.lt_asymm hab)) hl hm
  subst heq
  rfl

end Names
end BranchingStory
