import BranchingStory.Play.View
import BranchingStory.Proofs.Json.Scalars

/-!
# Placeholders and values

Rendering replaces the placeholders of one stat after the other.  `Template.fill` is the same done
in one pass over the text.  The two agree because a value is written with digits and a minus sign,
none of which occurs in a placeholder, and because a placeholder has its only opening brace in
front.  So a placeholder of one stat is not lost when those of another are replaced, and none comes
about.

The proofs read a text piece by piece, as the pass does: a piece is a placeholder, or a character at
which no placeholder begins.

Main results:

- `Template.fill_singleton_fill`: the placeholders of one more stat can be replaced afterwards.
- `Template.foldl_replaceAll`: replacing one stat after the other is one pass.
- `Template.not_placeholder_infix_fill`: no placeholder is left.
- `Template.fill_append_placeholder`: a value stands where its placeholder stood.
- `render_is_one_pass`: these facts for rendering, and that rendering again changes nothing.
-/

namespace BranchingStory
namespace Template

variable {stats order : List Stat} {value : Stat → List Char} {stat other : Stat} {c : Char}
  {text rest plain : List Char}

/-! ## Placeholders -/

/-- A placeholder is the symbol of its stat between braces. -/
theorem placeholder_append (stat : Stat) (rest : List Char) :
    placeholder stat ++ rest = '\x7b' :: (stat.key.toList ++ '\x7d' :: rest) := by
  simp [placeholder]

/-- No symbol of a stat has a brace. -/
theorem openBrace_not_mem_key (stat : Stat) : '\x7b' ∉ stat.key.toList := by
  cases stat <;> decide

/-- Up to the closing brace, a placeholder is the opening one and the symbol. -/
theorem takeWhile_placeholder_append (stat : Stat) (rest : List Char) :
    (placeholder stat ++ rest).takeWhile (· != '\x7d') = '\x7b' :: stat.key.toList := by
  cases stat <;> rfl

/-- No placeholder begins another one. -/
theorem eq_of_placeholder_begins (h : placeholder other <+: placeholder stat ++ rest) :
    other = stat := by
  obtain ⟨after, hafter⟩ := h
  have hname := congrArg (List.takeWhile (· != '\x7d')) hafter
  rw [takeWhile_placeholder_append, takeWhile_placeholder_append, List.cons_inj_right,
    String.toList_inj] at hname
  exact Stat.eq_of_key_eq hname

/-- A placeholder begins with its only opening brace. -/
theorem not_placeholder_prefix_cons (h : c ≠ '\x7b') : ¬ placeholder stat <+: c :: rest := by
  rintro ⟨after, hafter⟩
  rw [placeholder_append] at hafter
  exact h (List.cons.inj hafter).1.symm

/-! ## One pass -/

/-- The stat of a list whose placeholder begins a text. -/
def leading? (stats : List Stat) (text : List Char) : Option Stat :=
  stats.find? fun stat => (placeholder stat).isPrefixOf text

/-- A text with values in place of the placeholders of some stats, in one pass from left to right.
After a placeholder the pass goes on behind it, so the value is not looked at. -/
def fill (stats : List Stat) (value : Stat → List Char) : List Char → List Char
  | [] => []
  | c :: rest =>
      match leading? stats (c :: rest) with
      | some stat => value stat ++ fill stats value (rest.drop ((placeholder stat).length - 1))
      | none => c :: fill stats value rest
termination_by text => text.length
decreasing_by
  · simp only [List.length_drop, List.length_cons]
    omega
  · simp

@[simp]
theorem fill_nil : fill stats value [] = [] := by
  rw [fill]

/-- The placeholder that is found begins the text. -/
theorem prefix_of_leading? (h : leading? stats text = some stat) : placeholder stat <+: text := by
  simpa using List.find?_some h

/-- A placeholder of one of the stats is found where it begins the text. -/
theorem leading?_placeholder_append (h : stat ∈ stats) :
    leading? stats (placeholder stat ++ rest) = some stat := by
  cases hleading : leading? stats (placeholder stat ++ rest) with
  | none =>
      have hnot := List.find?_eq_none.mp hleading stat h
      simp at hnot
  | some other =>
      rw [eq_of_placeholder_begins (prefix_of_leading? hleading)]

/-- None is found exactly if none begins the text. -/
theorem leading?_eq_none_iff :
    leading? stats text = none ↔ ∀ stat ∈ stats, ¬ placeholder stat <+: text := by
  simp [leading?, List.find?_eq_none]

/-- A placeholder in front is filled with the value of its stat. -/
theorem fill_placeholder_append (h : stat ∈ stats) :
    fill stats value (placeholder stat ++ rest) = value stat ++ fill stats value rest := by
  have hleading : leading? stats (placeholder stat ++ rest) = some stat :=
    leading?_placeholder_append h
  rw [placeholder_append] at hleading ⊢
  rw [fill, hleading]
  simp [placeholder]

/-- A character that begins no placeholder stays. -/
theorem fill_cons (h : ∀ stat ∈ stats, ¬ placeholder stat <+: c :: rest) :
    fill stats value (c :: rest) = c :: fill stats value rest := by
  rw [fill, leading?_eq_none_iff.mpr h]

/-- A text is read piece by piece: a piece is a placeholder of one of the stats, or a character at
which none begins. -/
theorem reading {motive : List Char → Prop} (stats : List Stat) (nil : motive [])
    (place : ∀ stat ∈ stats, ∀ rest, motive rest → motive (placeholder stat ++ rest))
    (copy : ∀ c rest, (∀ stat ∈ stats, ¬ placeholder stat <+: c :: rest) → motive rest →
      motive (c :: rest)) (text : List Char) : motive text := by
  match text with
  | [] => exact nil
  | c :: rest =>
      cases hleading : leading? stats (c :: rest) with
      | none =>
          have hfree := leading?_eq_none_iff.mp hleading
          exact copy c rest hfree (reading stats nil place copy rest)
      | some stat =>
          obtain ⟨after, hafter⟩ := prefix_of_leading? hleading
          have hshorter : after.length < (c :: rest).length := by
            simp [← hafter, placeholder_append]
            omega
          rw [← hafter]
          exact place stat (List.mem_of_find?_eq_some hleading) after
            (reading stats nil place copy after)
termination_by text.length
decreasing_by
  · exact Nat.lt_succ_self _
  · exact hshorter

/-! ## What is copied -/

/-- What has no opening brace is copied. -/
theorem fill_append_of_not_mem (h : '\x7b' ∉ plain) :
    fill stats value (plain ++ rest) = plain ++ fill stats value rest := by
  induction plain with
  | nil => rfl
  | cons c plain ih =>
      obtain ⟨hc, hplain⟩ : '\x7b' ≠ c ∧ '\x7b' ∉ plain := by simpa using h
      have hfree : ∀ stat ∈ stats, ¬ placeholder stat <+: c :: (plain ++ rest) :=
        fun stat _ => not_placeholder_prefix_cons hc.symm
      rw [List.cons_append, fill_cons hfree, ih hplain, List.cons_append]

/-- The placeholder of another stat is copied. -/
theorem fill_placeholder_append_of_not_mem (h : stat ∉ stats) :
    fill stats value (placeholder stat ++ rest) =
      placeholder stat ++ fill stats value rest := by
  have hfree : ∀ other ∈ stats, ¬ placeholder other <+: placeholder stat ++ rest := by
    intro other hother hbegins
    exact h (eq_of_placeholder_begins hbegins ▸ hother)
  have hname : '\x7b' ∉ stat.key.toList ++ ['\x7d'] := by
    simp [openBrace_not_mem_key]
  rw [placeholder_append] at hfree ⊢
  rw [fill_cons hfree, placeholder_append, List.append_cons, fill_append_of_not_mem hname]
  simp

/-- Whether numbers are written with a character. -/
def isNumeral (c : Char) : Bool :=
  c == '-' || c.isDigit

/-- No character of a placeholder is one of numbers. -/
theorem isNumeral_of_mem_placeholder (h : c ∈ placeholder stat) : isNumeral c = false := by
  have hall : (placeholder stat).all (fun c => !isNumeral c) = true := by
    cases stat <;> rfl
  simpa using List.all_eq_true.mp hall c h

/-- The values are numerals: they are not empty and have digits and minus signs only. -/
structure AreNumerals (value : Stat → List Char) : Prop where
  ne_nil : ∀ stat, value stat ≠ []
  numeral : ∀ stat, ∀ c ∈ value stat, isNumeral c = true

/-- A numeral has no brace. -/
theorem AreNumerals.openBrace_not_mem (h : AreNumerals value) (stat : Stat) :
    '\x7b' ∉ value stat := by
  intro hmem
  have hopens : '\x7b' ∈ placeholder stat := List.mem_cons_self
  have hnot := isNumeral_of_mem_placeholder hopens
  simp [h.numeral stat _ hmem] at hnot

/-- A piece of the result without digits and minus signs was there before. -/
theorem exists_append_of_fill_eq_append (hvalue : AreNumerals value) {after : List Char}
    (hplain : ∀ c ∈ plain, isNumeral c = false)
    (h : fill stats value text = plain ++ after) : ∃ rest, text = plain ++ rest := by
  induction plain generalizing text with
  | nil => exact ⟨text, rfl⟩
  | cons d plain ih =>
      induction text using reading stats with
      | nil => simp at h
      | place stat hstat rest _ =>
          obtain ⟨c, digits, hdigits⟩ := List.exists_cons_of_ne_nil (hvalue.ne_nil stat)
          rw [fill_placeholder_append hstat, hdigits, List.cons_append, List.cons_append,
            List.cons.injEq] at h
          have hc : isNumeral c = true := hvalue.numeral stat c (hdigits ▸ List.mem_cons_self)
          have hd : isNumeral d = false := hplain d List.mem_cons_self
          rw [h.1, hd] at hc
          cases hc
      | copy c rest hfree _ =>
          rw [fill_cons hfree, List.cons_append, List.cons.injEq] at h
          obtain ⟨more, hmore⟩ := ih (fun c hc => hplain c (List.mem_cons_of_mem d hc)) h.2
          exact ⟨more, by rw [h.1, hmore, List.cons_append]⟩

/-- Replacing placeholders makes no new ones. -/
theorem placeholder_prefix_of_fill (hvalue : AreNumerals value)
    (h : placeholder stat <+: fill stats value text) : placeholder stat <+: text := by
  obtain ⟨after, hafter⟩ := h
  obtain ⟨rest, hrest⟩ := exists_append_of_fill_eq_append hvalue
    (fun c hc => isNumeral_of_mem_placeholder hc) hafter.symm
  exact ⟨rest, hrest.symm⟩

/-! ## One stat after the other -/

/-- The placeholders of one more stat can be replaced afterwards. -/
theorem fill_singleton_fill (hvalue : AreNumerals value) (stat : Stat) (stats : List Stat)
    (text : List Char) :
    fill [stat] value (fill stats value text) = fill (stat :: stats) value text := by
  induction text using reading (stat :: stats) with
  | nil => simp
  | place other hother rest ih =>
      rw [fill_placeholder_append hother]
      by_cases hstats : other ∈ stats
      · rw [fill_placeholder_append hstats, fill_append_of_not_mem (hvalue.openBrace_not_mem other),
          ih]
      · have hsame : other = stat := by simpa [hstats] using hother
        rw [fill_placeholder_append_of_not_mem hstats, hsame,
          fill_placeholder_append (List.mem_singleton_self stat), ih]
  | copy c rest hfree ih =>
      have hfree' : ∀ other ∈ stats, ¬ placeholder other <+: c :: rest :=
        fun other hother => hfree other (List.mem_cons_of_mem stat hother)
      have hcopied : fill stats value (c :: rest) = c :: fill stats value rest := fill_cons hfree'
      have hnone : ∀ other ∈ [stat], ¬ placeholder other <+: c :: fill stats value rest := by
        intro other hother hbegins
        rw [List.mem_singleton.mp hother, ← hcopied] at hbegins
        exact hfree stat List.mem_cons_self (placeholder_prefix_of_fill hvalue hbegins)
      rw [hcopied, fill_cons hnone, ih, fill_cons hfree]

/-- Characters that belong to an occurrence already replaced are passed over. -/
theorem replaceFrom_eq_drop (pattern replacement : List Char) (skip : Nat) (text : List Char) :
    replaceFrom pattern replacement skip text =
      replaceFrom pattern replacement 0 (text.drop skip) := by
  induction skip generalizing text with
  | zero => rfl
  | succ skip ih =>
      cases text with
      | nil => simp [replaceFrom]
      | cons c rest => rw [replaceFrom, ih, List.drop_succ_cons]

/-- An occurrence in front is replaced, and the search goes on behind it. -/
theorem replaceAll_cons (pattern replacement : List Char) (c : Char) (rest : List Char) :
    replaceAll pattern replacement (c :: rest) =
      if pattern <+: c :: rest then
        replacement ++ replaceAll pattern replacement (rest.drop (pattern.length - 1))
      else c :: replaceAll pattern replacement rest := by
  simp only [replaceAll, replaceFrom, List.isPrefixOf_iff_prefix]
  rw [replaceFrom_eq_drop]

/-- Replacing the placeholder of a stat is one pass. -/
theorem replaceAll_placeholder (value : Stat → List Char) (stat : Stat) (text : List Char) :
    replaceAll (placeholder stat) (value stat) text = fill [stat] value text := by
  induction text using reading [stat] with
  | nil => simp [replaceAll, replaceFrom]
  | place other hother rest ih =>
      obtain rfl := List.mem_singleton.mp hother
      have hbegins : placeholder other <+: placeholder other ++ rest := List.prefix_append _ _
      rw [fill_placeholder_append hother, ← ih]
      rw [placeholder_append] at hbegins ⊢
      rw [replaceAll_cons, if_pos hbegins]
      simp [placeholder]
  | copy c rest hfree ih =>
      rw [replaceAll_cons, if_neg (hfree stat (List.mem_singleton_self stat)), ih, fill_cons hfree]

/-- Without stats nothing is replaced. -/
theorem fill_of_isEmpty (value : Stat → List Char) (text : List Char) :
    fill [] value text = text := by
  induction text with
  | nil => simp
  | cons c rest ih => rw [fill_cons (by simp), ih]

/-- Replacing the placeholders of one stat after the other is filling them all at once. -/
theorem foldl_replaceAll_fill (hvalue : AreNumerals value) (order stats : List Stat)
    (text : List Char) :
    order.foldl (fun chars stat => replaceAll (placeholder stat) (value stat) chars)
        (fill stats value text) =
      fill (order.reverse ++ stats) value text := by
  induction order generalizing stats with
  | nil => rfl
  | cons stat order ih =>
      rw [List.foldl_cons, replaceAll_placeholder, fill_singleton_fill hvalue, ih]
      simp

/-- Which placeholders a pass replaces does not depend on the order of the stats. -/
theorem fill_congr {others : List Stat} (h : ∀ stat, stat ∈ others ↔ stat ∈ stats)
    (value : Stat → List Char) (text : List Char) :
    fill others value text = fill stats value text := by
  induction text using reading stats with
  | nil => simp
  | place stat hstat rest ih =>
      rw [fill_placeholder_append hstat, fill_placeholder_append ((h stat).mpr hstat), ih]
  | copy c rest hfree ih =>
      have hfree' : ∀ stat ∈ others, ¬ placeholder stat <+: c :: rest :=
        fun stat hstat => hfree stat ((h stat).mp hstat)
      rw [fill_cons hfree, fill_cons hfree', ih]

/-- Replacing one stat after the other is one pass, whatever the order is. -/
theorem foldl_replaceAll (hvalue : AreNumerals value) (horder : ∀ stat, stat ∈ order)
    (text : List Char) :
    order.foldl (fun chars stat => replaceAll (placeholder stat) (value stat) chars) text =
      fill Stat.all value text := by
  have hfold := foldl_replaceAll_fill hvalue order [] text
  rw [fill_of_isEmpty] at hfold
  rw [hfold]
  apply fill_congr
  simp [horder]

/-! ## The result -/

/-- An opening brace is not in a value, so what begins with one begins behind it. -/
theorem infix_of_infix_append {marks : List Char} (h : '\x7b' ∉ plain)
    (hwithin : '\x7b' :: marks <:+: plain ++ rest) : '\x7b' :: marks <:+: rest := by
  induction plain with
  | nil => exact hwithin
  | cons c plain ih =>
      obtain ⟨hc, hplain⟩ : '\x7b' ≠ c ∧ '\x7b' ∉ plain := by simpa using h
      rw [List.cons_append, List.infix_cons_iff] at hwithin
      rcases hwithin with hbegins | hwithin
      · obtain ⟨after, hafter⟩ := hbegins
        exact absurd (List.cons.inj hafter).1 hc
      · exact ih hplain hwithin

/-- No placeholder of the stats is left. -/
theorem not_placeholder_infix_fill (hvalue : AreNumerals value) (h : stat ∈ stats)
    (text : List Char) : ¬ placeholder stat <:+: fill stats value text := by
  induction text using reading stats with
  | nil => simp [placeholder]
  | place other hother rest ih =>
      intro hwithin
      rw [fill_placeholder_append hother] at hwithin
      exact ih (infix_of_infix_append (hvalue.openBrace_not_mem other) hwithin)
  | copy c rest hfree ih =>
      intro hwithin
      have hcopied : fill stats value (c :: rest) = c :: fill stats value rest := fill_cons hfree
      rw [hcopied, List.infix_cons_iff, ← hcopied] at hwithin
      rcases hwithin with hbegins | hwithin
      · exact hfree stat h (placeholder_prefix_of_fill hvalue hbegins)
      · exact ih hwithin

/-- A text without placeholders stays as it is. -/
theorem fill_eq_self (h : ∀ stat ∈ stats, ¬ placeholder stat <:+: text) :
    fill stats value text = text := by
  induction text with
  | nil => simp
  | cons c rest ih =>
      have hfree : ∀ stat ∈ stats, ¬ placeholder stat <+: c :: rest :=
        fun stat hstat hbegins => h stat hstat hbegins.isInfix
      have hrest : ∀ stat ∈ stats, ¬ placeholder stat <:+: rest :=
        fun stat hstat hwithin => h stat hstat (List.infix_cons hwithin)
      rw [fill_cons hfree, ih hrest]

/-- A placeholder that begins in front of an opening brace ends in front of it. -/
theorem placeholder_prefix_of_append {after : List Char}
    (h : placeholder stat <+: (c :: rest) ++ '\x7b' :: after) :
    placeholder stat <+: c :: rest := by
  rcases List.prefix_or_prefix_of_prefix h (List.prefix_append _ _) with hshort | ⟨marks, hmarks⟩
  · exact hshort
  · obtain ⟨tail, htail⟩ := h
    rw [← hmarks, List.append_assoc, List.append_cancel_left_eq] at htail
    cases marks with
    | nil => exact ⟨[], by simpa using hmarks.symm⟩
    | cons d marks =>
        have hd : d = '\x7b' := (List.cons.inj htail).1
        have hname : rest ++ d :: marks = stat.key.toList ++ ['\x7d'] :=
          (List.cons.inj hmarks).2
        have hmem : '\x7b' ∈ stat.key.toList ++ ['\x7d'] := by
          rw [← hname, hd]
          simp
        simp [openBrace_not_mem_key] at hmem

/-- What stands in front of an opening brace is replaced by itself. -/
theorem fill_append_openBrace (before after : List Char) :
    fill stats value (before ++ '\x7b' :: after) =
      fill stats value before ++ fill stats value ('\x7b' :: after) := by
  induction before using reading stats with
  | nil => simp
  | place stat hstat rest ih =>
      rw [List.append_assoc, fill_placeholder_append hstat, fill_placeholder_append hstat, ih,
        List.append_assoc]
  | copy c rest hfree ih =>
      have hfree' : ∀ stat ∈ stats, ¬ placeholder stat <+: c :: (rest ++ '\x7b' :: after) :=
        fun stat hstat hbegins => hfree stat hstat (placeholder_prefix_of_append hbegins)
      rw [List.cons_append, fill_cons hfree', ih, fill_cons hfree, List.cons_append]

/-- A value stands where its placeholder stood, between what comes of the text before and after. -/
theorem fill_append_placeholder (h : stat ∈ stats) (before after : List Char) :
    fill stats value (before ++ placeholder stat ++ after) =
      fill stats value before ++ value stat ++ fill stats value after := by
  rw [List.append_assoc, List.append_assoc, ← fill_placeholder_append h, placeholder_append,
    fill_append_openBrace]

/-! ## Values of stats -/

/-- The values of stats as they are written. -/
def written (stats : Stats) (stat : Stat) : List Char :=
  (stats.get stat).text.toList

/-- The values of stats are written as numerals. -/
theorem areNumerals_written (stats : Stats) : AreNumerals (written stats) := by
  have hwritten : ∀ stat, written stats stat =
      if 0 ≤ (stats.get stat).toInt then Nat.toDigits 10 (stats.get stat).toInt.toNat
      else '-' :: Nat.toDigits 10 (-(stats.get stat).toInt).toNat :=
    fun stat => Json.toList_text_integer (stats.get stat).toInt
  have hdigits : ∀ n, ∀ c ∈ Nat.toDigits 10 n, isNumeral c = true := by
    intro n c hc
    have hdigit : c.isDigit = true := Nat.isDigit_of_mem_toDigits (by decide) (by decide) hc
    simp [isNumeral, hdigit]
  constructor
  · intro stat
    rw [hwritten]
    split
    · exact Nat.toDigits_ne_nil
    · exact List.cons_ne_nil _ _
  · intro stat c hc
    rw [hwritten] at hc
    split at hc
    · exact hdigits _ c hc
    · rcases List.mem_cons.mp hc with rfl | hc
      · rfl
      · exact hdigits _ c hc

end Template

/-- Rendering is one pass over the text: each placeholder is replaced where it stands by the value
of its stat, whatever the text before and behind it is, and everything else is copied.  The order of
the stats does not matter, no placeholder is left, and rendering again changes nothing. -/
theorem render_is_one_pass (stats : Stats) (text : String) :
    (render stats text).toList =
        Template.fill Stat.all (Template.written stats) text.toList ∧
      (∀ before stat after, text = before ++ String.ofList (Template.placeholder stat) ++ after →
        render stats text = render stats before ++ (stats.get stat).text ++ render stats after) ∧
      (∀ order : List Stat, (∀ stat, stat ∈ order) →
        order.foldl (fun chars stat => Template.replaceAll (Template.placeholder stat)
          (stats.get stat).text.toList chars) text.toList = (render stats text).toList) ∧
      (∀ stat, ¬ Template.placeholder stat <:+: (render stats text).toList) ∧
      ∀ others : Stats, render others (render stats text) = render stats text := by
  have hnumerals := Template.areNumerals_written
  have hpass : ∀ stats text, (render stats text).toList =
      Template.fill Stat.all (Template.written stats) text.toList := by
    intro stats text
    rw [render, String.toList_ofList]
    exact Template.foldl_replaceAll (hnumerals stats) Stat.mem_all text.toList
  have hnone : ∀ stat, ¬ Template.placeholder stat <:+: (render stats text).toList := by
    intro stat
    rw [hpass]
    exact Template.not_placeholder_infix_fill (hnumerals stats) (Stat.mem_all stat) text.toList
  refine ⟨hpass stats text, ?_, ?_, hnone, ?_⟩
  · rintro before stat after rfl
    rw [← String.toList_inj]
    simp only [String.toList_append, hpass, String.toList_ofList]
    exact Template.fill_append_placeholder (Stat.mem_all stat) before.toList after.toList
  · intro order horder
    rw [hpass]
    exact Template.foldl_replaceAll (hnumerals stats) horder text.toList
  · intro others
    rw [← String.toList_inj, hpass]
    exact Template.fill_eq_self fun stat _ => hnone stat

/-- Placeholders side by side and inside braces of other kinds, and names of no stat. -/
def crowdedTemplate : String :=
  "\x7b\x7bS\x7d\x7d\x7bSA\x7bSC\x7dA\x7d\x7bs\x7d"

/-- Only the braces directly around a symbol count, and the values of the stats that are shown stand
between the same characters as their placeholders. -/
theorem render_is_one_pass_crowded :
    let stats : Stats := { PerStat.uniform 7 with safety := -12, socialCapital := Int32.minValue }
    render stats crowdedTemplate = "\x7b-12\x7d\x7bSA-2147483648A\x7d\x7bs\x7d" ∧
      render stats crowdedTemplate = render stats "\x7b\x7bS\x7d\x7d\x7bSA" ++ "-2147483648"
        ++ render stats "A\x7d\x7bs\x7d" ∧
      Stat.all.reverse.foldl (fun chars stat => Template.replaceAll (Template.placeholder stat)
          (stats.get stat).text.toList chars) crowdedTemplate.toList =
        (render stats crowdedTemplate).toList := by
  intro stats
  obtain ⟨-, hplaced, horder, -, -⟩ := render_is_one_pass stats crowdedTemplate
  refine ⟨by decide +kernel, ?_, ?_⟩
  · exact hplaced "\x7b\x7bS\x7d\x7d\x7bSA" .socialCapital "A\x7d\x7bs\x7d" (by decide +kernel)
  · apply horder
    simp

end BranchingStory
