import BranchingStory.Proofs.Json.Scalars

/-!
# Values are read back

`ReadsBack` says of a value that its compact text is read as the value itself, wherever it stands:
in an array, in an object, or alone.  Texts, integers and `null` are read back, and arrays and
objects are if what they hold is.  So a writer that uses nothing else is inverted by the reader.

Main results:

- `ReadsBack.array`, `ReadsBack.object`: arrays and objects of values that are read back.
- `ReadsBack.read?_write`: reading the text of a value that is read back gives the value.
-/

namespace BranchingStory
namespace Json

variable {rest chars : List Char} {fuel : Nat} {j : Json}

/-- The value is read back from its compact text, up to what comes after it. -/
def ReadsBack (j : Json) : Prop :=
  ∀ (rest : List Char) (fuel : Nat), Closes rest → j.write.toList.length < fuel →
    readValue fuel (j.write.toList ++ rest) = some (j, rest)

/-! ## Blanks -/

@[simp]
theorem skipBlank_skipBlank (chars : List Char) :
    skipBlank (skipBlank chars) = skipBlank chars := by
  induction chars with
  | nil => rfl
  | cons c rest ih =>
      rw [skipBlank]
      split
      · exact ih
      · rename_i hc
        rw [skipBlank, if_neg hc]

/-- Blanks in front of a value do not matter. -/
theorem readValue_skipBlank (fuel : Nat) (chars : List Char) :
    readValue fuel (skipBlank chars) = readValue fuel chars := by
  cases fuel with
  | zero => rfl
  | succ fuel => rw [readValue, readValue, skipBlank_skipBlank]

/-- No value begins with a closing bracket. -/
theorem readValue_of_bracket (h : skipBlank chars = ']' :: rest) : readValue fuel chars = none := by
  cases fuel with
  | zero => rfl
  | succ fuel =>
      rw [readValue, h]
      rfl

/-- Blanks in front of the items of an array do not matter. -/
theorem readItems_skipBlank (fuel : Nat) (sofar : List Json) (chars : List Char) :
    readItems fuel sofar (skipBlank chars) = readItems fuel sofar chars := by
  cases fuel with
  | zero => rfl
  | succ fuel => rw [readItems, readItems, readValue_skipBlank]

/-- Where an item is asked for, the array must not end. -/
theorem readItems_of_bracket {sofar : List Json} (h : skipBlank chars = ']' :: rest) :
    readItems fuel sofar chars = none := by
  cases fuel with
  | zero => rfl
  | succ fuel => rw [readItems, readValue_of_bracket h]

/-! ## Plain values -/

/-- A value that begins with a digit or a minus sign is a number. -/
theorem readValue_of_number {c : Char} (hc : c.isDigit = true ∨ c = '-') :
    readValue (fuel + 1) (c :: chars) =
      (readNumber (c :: chars)).map fun (n, rest) => (.number n, rest) := by
  have hskip : skipBlank (c :: chars) = c :: chars := by
    rw [skipBlank, if_neg]
    rintro (rfl | rfl | rfl | rfl) <;> revert hc <;> decide
  rw [readValue, hskip]
  split
  -- No other value begins with a digit or a minus sign.
  iterate 6
    rename_i heq
    cases heq
    exact absurd hc (by decide)
  cases readNumber (c :: chars) <;> rfl

/-- A value that begins with a quote is a text. -/
theorem readValue_of_quote (chars : List Char) :
    readValue (fuel + 1) ('"' :: chars) =
      match readStringFrom (chars.length + 1) (some []) chars with
      | some (some s, rest) => some (.text s, rest)
      | some (none, rest) => some (.garbled, rest)
      | none => none :=
  rfl

/-- A value that begins with a bracket is an array. -/
theorem readValue_of_openBracket (chars : List Char) :
    readValue (fuel + 1) ('[' :: chars) =
      match skipBlank chars with
      | ']' :: rest => some (.array [], rest)
      | rest => readItems fuel [] rest :=
  rfl

/-- A value that begins with a brace is an object. -/
theorem readValue_of_openBrace (chars : List Char) :
    readValue (fuel + 1) ('{' :: chars) =
      match skipBlank chars with
      | '}' :: rest => some (.object [], rest)
      | rest => readMembers fuel [] rest :=
  rfl

/-- The written `null` is read back. -/
theorem readsBack_null : ReadsBack .null := by
  intro rest fuel _ hfuel
  obtain ⟨fuel, rfl⟩ := Nat.exists_eq_succ_of_ne_zero (Nat.ne_of_gt (Nat.zero_lt_of_lt hfuel))
  rfl

/-- A written text is read back, whatever has to be escaped in it. -/
theorem readsBack_text (s : String) : ReadsBack (.text s) := by
  intro rest fuel _ hfuel
  obtain ⟨fuel, rfl⟩ := Nat.exists_eq_succ_of_ne_zero (Nat.ne_of_gt (Nat.zero_lt_of_lt hfuel))
  have hchars : (write (.text s)).toList ++ rest = '"' :: (escaped s.toList ++ '"' :: rest) := by
    rw [write, toList_writeText, List.cons_append, List.append_assoc]
    rfl
  rw [hchars, readValue_of_quote, readStringFrom_text]

/-- A written integer is read back. -/
theorem readsBack_int (n : Int) : ReadsBack (.int n) := by
  intro rest fuel hrest hfuel
  obtain ⟨fuel, rfl⟩ := Nat.exists_eq_succ_of_ne_zero (Nat.ne_of_gt (Nat.zero_lt_of_lt hfuel))
  obtain ⟨c, digits, hchars, hc⟩ : ∃ c digits, (Number.text (.integer n)).toList = c :: digits ∧
      (c.isDigit = true ∨ c = '-') := by
    rw [toList_text_integer]
    split
    · obtain ⟨c, digits, hdigits, hc⟩ := exists_toDigits_eq_cons n.toNat
      exact ⟨c, digits, hdigits, Or.inl hc⟩
    · exact ⟨'-', _, rfl, Or.inr rfl⟩
  have hread := readNumber_integer hrest n
  rw [hchars, List.cons_append] at hread
  rw [int, write, hchars, List.cons_append, readValue_of_number hc, hread]
  rfl

/-- A value that may be absent is read back if the value is. -/
theorem readsBack_orNull {α : Type} {f : α → Json} (h : ∀ a, ReadsBack (f a)) (o : Option α) :
    ReadsBack (orNull f o) := by
  cases o with
  | none => exact readsBack_null
  | some a => exact h a

/-- A text that may be absent is read back. -/
theorem readsBack_textOrNull (s : Option String) : ReadsBack (textOrNull s) :=
  readsBack_orNull readsBack_text s

/-! ## Arrays -/

/-- The first item is followed by a comma and the others. -/
theorem toList_writeItems_cons (item next : Json) (items : List Json) :
    (writeItems (item :: next :: items)).toList =
      item.write.toList ++ ',' :: (writeItems (next :: items)).toList := by
  simp [writeItems]

/-- The items of an array are read back behind those that have been read. -/
theorem readItems_writeItems {items : List Json} (h : ∀ item ∈ items, ReadsBack item)
    (hne : items ≠ []) (sofar : List Json) (rest : List Char) (fuel : Nat)
    (hfuel : (writeItems items).toList.length + 1 < fuel) :
    readItems fuel sofar ((writeItems items).toList ++ ']' :: rest) =
      some (.array (sofar.reverse ++ items), rest) := by
  induction items generalizing sofar fuel with
  | nil => exact absurd rfl hne
  | cons item items ih =>
      rw [List.forall_mem_cons] at h
      obtain ⟨fuel, rfl⟩ : ∃ fuel', fuel = fuel' + 1 := ⟨fuel - 1, by omega⟩
      cases items with
      | nil =>
          have hitem := h.1 (']' :: rest) fuel (closes_cons (by simp) _)
            (by simpa [writeItems] using hfuel)
          rw [writeItems, readItems, hitem]
          simp [skipBlank]
      | cons next items =>
          rw [toList_writeItems_cons, List.length_append, List.length_cons] at hfuel
          have hitem := h.1 (',' :: ((writeItems (next :: items)).toList ++ ']' :: rest)) fuel
            (closes_cons (by simp) _) (by omega)
          have hitems := ih h.2 nofun (item :: sofar) fuel (by omega)
          rw [toList_writeItems_cons, List.append_assoc, List.cons_append, readItems, hitem]
          simpa [skipBlank] using hitems

/-- An array is read back if its items are. -/
theorem ReadsBack.array {items : List Json} (h : ∀ item ∈ items, ReadsBack item) :
    ReadsBack (.array items) := by
  intro rest fuel _ hfuel
  have hchars : (write (.array items)).toList = '[' :: ((writeItems items).toList ++ [']']) := by
    simp [write]
  rw [hchars, List.length_cons, List.length_append, List.length_singleton] at hfuel
  obtain ⟨fuel, rfl⟩ : ∃ fuel', fuel = fuel' + 1 := ⟨fuel - 1, by omega⟩
  rw [hchars, List.cons_append, List.append_assoc, List.singleton_append, readValue_of_openBracket]
  cases items with
  | nil => rfl
  | cons item items =>
      have hitems := readItems_writeItems h nofun [] rest fuel (by omega)
      split
      · -- An array that has items does not end at once, as no item begins with a bracket.
        rename_i heq
        rw [readItems_of_bracket heq] at hitems
        cases hitems
      · rw [readItems_skipBlank]
        exact hitems

/-- An array of texts is read back. -/
theorem readsBack_texts (l : List String) : ReadsBack (.texts l) := by
  refine .array fun item hitem => ?_
  obtain ⟨s, -, rfl⟩ := List.mem_map.mp hitem
  exact readsBack_text s

/-! ## Objects -/

/-- Members whose keys are whole make an object. -/
theorem ofMembers_map (members : List (String × Json)) :
    ofMembers (members.map fun member => (some member.1, member.2)) = .object members := by
  have hkeys : ∀ f : Option String × Json → Option (String × Json),
      (∀ key value, f (some key, value) = some (key, value)) →
        (members.map fun member => (some member.1, member.2)).mapM f = some members := by
    intro f hf
    induction members with
    | nil => rfl
    | cons member members ih => simp [List.mapM_cons, hf, ih]
  rw [ofMembers, hkeys _ fun _ _ => rfl]

/-- Members begin with the quote of a key. -/
theorem exists_writeMembers_eq_cons (member : String × Json) (members : List (String × Json)) :
    ∃ others, (writeMembers (member :: members)).toList = '"' :: others := by
  cases members <;> simp [writeMembers, toList_writeText]

/-- The first member is followed by a comma and the others. -/
theorem toList_writeMembers_cons (member next : String × Json) (members : List (String × Json)) :
    (writeMembers (member :: next :: members)).toList =
      (writeText member.1).toList ++ ':' :: (member.2.write.toList ++
        ',' :: (writeMembers (next :: members)).toList) := by
  simp [writeMembers]

/-- No blank is in front of a quote. -/
theorem skipBlank_quote (chars : List Char) : skipBlank ('"' :: chars) = '"' :: chars :=
  rfl

/-- No blank is in front of a colon. -/
theorem skipBlank_colon (chars : List Char) : skipBlank (':' :: chars) = ':' :: chars :=
  rfl

/-- Behind a member and a comma the next member is read. -/
theorem readMembers_comma {key : String} {value : Json} {sofar : List (Option String × Json)}
    (hvalue : readValue fuel chars = some (value, ',' :: rest)) :
    readMembers (fuel + 1) sofar ((writeText key).toList ++ ':' :: chars) =
      readMembers fuel ((some key, value) :: sofar) rest := by
  rw [toList_writeText, List.cons_append, List.append_assoc, List.singleton_append, readMembers,
    skipBlank_quote]
  simp only [readStringFrom_text, skipBlank_colon, hvalue]
  rfl

/-- Behind a member and a closing brace the object is at its end. -/
theorem readMembers_brace {key : String} {value : Json} {sofar : List (Option String × Json)}
    (hvalue : readValue fuel chars = some (value, '}' :: rest)) :
    readMembers (fuel + 1) sofar ((writeText key).toList ++ ':' :: chars) =
      some (ofMembers ((some key, value) :: sofar).reverse, rest) := by
  rw [toList_writeText, List.cons_append, List.append_assoc, List.singleton_append, readMembers,
    skipBlank_quote]
  simp only [readStringFrom_text, skipBlank_colon, hvalue]
  rfl

/-- The members of an object are read back behind those that have been read. -/
theorem readMembers_writeMembers {members : List (String × Json)}
    (h : ∀ member ∈ members, ReadsBack member.2) (hne : members ≠ [])
    (sofar : List (Option String × Json)) (rest : List Char) (fuel : Nat)
    (hfuel : (writeMembers members).toList.length + 1 < fuel) :
    readMembers fuel sofar ((writeMembers members).toList ++ '}' :: rest) =
      some (ofMembers (sofar.reverse ++
        members.map fun member => (some member.1, member.2)), rest) := by
  induction members generalizing sofar fuel with
  | nil => exact absurd rfl hne
  | cons member members ih =>
      rw [List.forall_mem_cons] at h
      obtain ⟨fuel, rfl⟩ : ∃ fuel', fuel = fuel' + 1 := ⟨fuel - 1, by omega⟩
      obtain ⟨key, value⟩ := member
      have hvalue : ReadsBack value := h.1
      cases members with
      | nil =>
          have hchars : (writeMembers [(key, value)]).toList =
              (writeText key).toList ++ ':' :: value.write.toList := by
            simp [writeMembers]
          rw [hchars, List.length_append, List.length_cons] at hfuel
          have hread := hvalue ('}' :: rest) fuel (closes_cons (by simp) _) (by omega)
          rw [hchars, List.append_assoc, List.cons_append, readMembers_brace hread,
            List.reverse_cons]
          rfl
      | cons next members =>
          rw [toList_writeMembers_cons] at hfuel ⊢
          simp only [List.length_append, List.length_cons] at hfuel
          have hmembers := ih h.2 nofun ((some key, value) :: sofar) fuel (by omega)
          have hread := hvalue (',' :: ((writeMembers (next :: members)).toList ++ '}' :: rest))
            fuel (closes_cons (by simp) _) (by omega)
          rw [List.append_assoc, List.cons_append, List.append_assoc, List.cons_append,
            readMembers_comma hread, hmembers, List.reverse_cons, List.append_assoc]
          rfl

/-- An object is read back if the values of its members are. -/
theorem ReadsBack.object {members : List (String × Json)}
    (h : ∀ member ∈ members, ReadsBack member.2) : ReadsBack (.object members) := by
  intro rest fuel _ hfuel
  have hchars : (write (.object members)).toList =
      '{' :: ((writeMembers members).toList ++ ['}']) := by
    simp [write]
  rw [hchars, List.length_cons, List.length_append, List.length_singleton] at hfuel
  obtain ⟨fuel, rfl⟩ : ∃ fuel', fuel = fuel' + 1 := ⟨fuel - 1, by omega⟩
  rw [hchars, List.cons_append, List.append_assoc, List.singleton_append, readValue_of_openBrace]
  cases members with
  | nil => rfl
  | cons member members =>
      have hmembers := readMembers_writeMembers h nofun [] rest fuel (by omega)
      rw [List.reverse_nil, List.nil_append, ofMembers_map] at hmembers
      obtain ⟨others, hothers⟩ := exists_writeMembers_eq_cons member members
      rw [hothers] at hmembers ⊢
      exact hmembers

/-! ## Whole texts -/

/-- Reading the text of a value that is read back gives the value. -/
theorem ReadsBack.read?_write (h : ReadsBack j) : read? j.write = some j := by
  have hread := h [] (2 * j.write.toList.length + 2) nofun (by omega)
  rw [List.append_nil] at hread
  simp only [read?, hread]
  rfl

end Json
end BranchingStory
