import BranchingStory.Proofs.Condition.Writing

/-!
# Tokens account for a text

The tokens of a text, with the places where they begin, account for every character of it.  What
stands before the first token is blank.  What stands between the beginning of a token and that of
the next one, or the end of the text, is a spelling of the token and blank characters behind it; an
operator is the longest that matches where it begins.  So no character is lost and none is read
twice.

The other way round, words with blank characters behind each of them are read as just these words,
at the places where they stand.

Main results:

- `Cut.exists_piece`: each token of a cut has a piece of the text, which ends where the next begins.
- `tokens_account_for_text`: the tokens account for the text, and separated words are its tokens.
-/

namespace BranchingStory
namespace Condition

/-! ## Pieces -/

/-- A word with the blank characters that come after it. -/
structure Piece where
  word : Word
  blanks : List Char
  isBlank_blanks : ∀ c ∈ blanks, isBlank c = true

/-- The characters of a piece. -/
def Piece.chars (piece : Piece) : List Char :=
  piece.word.chars ++ piece.blanks

/-- A word has at least one character. -/
theorem Word.length_chars_pos (word : Word) : 0 < word.chars.length := by
  obtain ⟨_, _, hchars, _⟩ := word.spells.exists_head
  rw [hchars]
  exact Nat.succ_pos _

/-- A piece has at least one character. -/
theorem Piece.length_chars_pos (piece : Piece) : 0 < piece.chars.length := by
  have hword := piece.word.length_chars_pos
  rw [Piece.chars, List.length_append]
  omega

/-- The tokens of pieces that are laid out from a position on, where they begin. -/
def placedFrom : Nat → List Piece → List Placed
  | _, [] => []
  | position, piece :: pieces =>
      ⟨position, piece.word.token⟩ :: placedFrom (position + piece.chars.length) pieces

/-! ## Where the tokens of a text begin -/

namespace Cursor

/-- Where the token begins that comes after the next `i` of them; after the last one this is where
the text ends. -/
def stop (c : Cursor) (i : Nat) : Nat :=
  Cursor.position { c with rest := c.rest.drop i }

@[simp]
theorem stop_nil (finish i : Nat) : stop ⟨[], finish⟩ i = finish := by
  simp [stop, position]

@[simp]
theorem stop_cons_zero (p : Placed) (placed : List Placed) (finish : Nat) :
    stop ⟨p :: placed, finish⟩ 0 = p.position :=
  rfl

@[simp]
theorem stop_cons_succ (p : Placed) (placed : List Placed) (finish i : Nat) :
    stop ⟨p :: placed, finish⟩ (i + 1) = stop ⟨placed, finish⟩ i :=
  rfl

end Cursor

/-- Tokens account for all characters of a text.  The token `i` begins at its stop, and the next
one, or the end of the text, is at the stop after it. -/
structure AccountsFor (placed : List Placed) (text : String) : Prop where
  /-- Each token begins after the one before it, and before the end. -/
  stop_lt : ∀ i < placed.length,
    Cursor.stop ⟨placed, text.length⟩ i < Cursor.stop ⟨placed, text.length⟩ (i + 1)
  /-- The end of the text is behind all its characters. -/
  stop_length : Cursor.stop ⟨placed, text.length⟩ placed.length = text.toList.length
  /-- There are only blank characters before the first token. -/
  isBlank_before : ∀ c ∈ text.toList.take (Cursor.stop ⟨placed, text.length⟩ 0), isBlank c = true
  /-- From a token to the next there are a spelling of it and blank characters. -/
  exists_piece : ∀ i (hi : i < placed.length), ∃ piece : Piece,
    piece.word.token = placed[i].token ∧
      (text.toList.drop (Cursor.stop ⟨placed, text.length⟩ i)).take
        (Cursor.stop ⟨placed, text.length⟩ (i + 1) - Cursor.stop ⟨placed, text.length⟩ i) =
          piece.chars
  /-- An operator is the longest that matches where it begins. -/
  isLongest : ∀ i (hi : i < placed.length) (o : Operator), placed[i].token = .op o →
    o.IsLongestOf (text.toList.drop (Cursor.stop ⟨placed, text.length⟩ i))

/-! ## The pieces of a cut -/

variable {chars : List Char} {placed : List Placed} {position finish : Nat}

/-- What comes before the first token is blank. -/
theorem Cut.exists_lead (h : Cut position chars placed)
    (hfinish : position + chars.length = finish) :
    ∃ lead rest, chars = lead ++ rest ∧ (∀ c ∈ lead, isBlank c = true) ∧
      Cursor.stop ⟨placed, finish⟩ 0 = position + lead.length := by
  induction h with
  | done => exact ⟨[], [], rfl, nofun, by simpa using hfinish.symm⟩
  | @blank position c chars placed hc _ ih =>
      obtain ⟨lead, rest, rfl, hlead, hstop⟩ := ih (by simp at hfinish ⊢; omega)
      refine ⟨c :: lead, rest, rfl, List.forall_mem_cons.mpr ⟨hc, hlead⟩, ?_⟩
      rw [hstop, List.length_cons]
      omega
  | word => exact ⟨[], _, rfl, nofun, rfl⟩

/-- Each token of a cut has a piece of the characters, which ends where the next begins. -/
theorem Cut.exists_piece (h : Cut position chars placed)
    (hfinish : position + chars.length = finish) {i : Nat} (hi : i < placed.length) :
    ∃ (before : List Char) (piece : Piece) (after : List Char),
      chars = before ++ (piece.chars ++ after) ∧
      Cursor.stop ⟨placed, finish⟩ i = position + before.length ∧
      Cursor.stop ⟨placed, finish⟩ (i + 1) = position + before.length + piece.chars.length ∧
      piece.word.token = placed[i].token ∧
      piece.word.token.EndsBefore (piece.blanks ++ after) := by
  induction h generalizing i with
  | done => cases hi
  | @blank position c chars placed _ _ ih =>
      obtain ⟨before, piece, after, rfl, hstop, hnext, htoken, hends⟩ :=
        ih (by simp at hfinish ⊢; omega) hi
      refine ⟨c :: before, piece, after, rfl, ?_, ?_, htoken, hends⟩
      · rw [hstop, List.length_cons]
        omega
      · rw [hnext, List.length_cons]
        omega
  | @word position word chars token placed hword hends hrest ih =>
      have hfinish' : position + word.length + chars.length = finish := by
        rw [List.length_append] at hfinish
        omega
      cases i with
      | zero =>
          obtain ⟨lead, rest, rfl, hlead, hstop⟩ := hrest.exists_lead hfinish'
          refine ⟨[], ⟨⟨word, token, hword⟩, lead, hlead⟩, rest, ?_, rfl, ?_, rfl, hends⟩
          · simp [Piece.chars]
          · rw [Cursor.stop_cons_succ, hstop]
            simp [Piece.chars, Nat.add_assoc]
      | succ i =>
          obtain ⟨before, piece, after, rfl, hstop, hnext, htoken, hends'⟩ :=
            ih hfinish' (Nat.lt_of_succ_lt_succ hi)
          refine ⟨word ++ before, piece, after, by simp, ?_, ?_, htoken, hends'⟩
          · rw [Cursor.stop_cons_succ, hstop, List.length_append, Nat.add_assoc]
          · rw [Cursor.stop_cons_succ, hnext, List.length_append, Nat.add_assoc position]

/-- The tokens of a cut account for the text. -/
theorem Cut.accountsFor {text : String} (h : Cut 0 text.toList placed) :
    AccountsFor placed text := by
  have hfinish : 0 + text.toList.length = text.length := by
    rw [Nat.zero_add, String.length_toList]
  refine ⟨fun i hi => ?_, ?_, ?_, fun i hi => ?_, fun i hi o ho => ?_⟩
  · obtain ⟨before, piece, after, -, hstop, hnext, -, -⟩ := h.exists_piece hfinish hi
    have hpiece := piece.length_chars_pos
    omega
  · simp [Cursor.stop, Cursor.position, String.length_toList]
  · obtain ⟨lead, rest, hchars, hlead, hstop⟩ := h.exists_lead hfinish
    rw [hstop, hchars, Nat.zero_add, List.take_left]
    exact hlead
  · obtain ⟨before, piece, after, hchars, hstop, hnext, htoken, -⟩ := h.exists_piece hfinish hi
    refine ⟨piece, htoken, ?_⟩
    rw [hnext, hstop, Nat.add_sub_cancel_left, Nat.zero_add, hchars, List.drop_left,
      List.take_left]
  · obtain ⟨before, piece, after, hchars, hstop, -, htoken, hends⟩ := h.exists_piece hfinish hi
    have hspells := piece.word.spells
    rw [htoken, ho] at hspells hends
    rw [hstop, Nat.zero_add, hchars, List.drop_left, Piece.chars, List.append_assoc]
    exact hspells.isLongestOf hends

/-! ## Separated words -/

/-- Blanks separate a word from what comes after. -/
theorem separated_of_blank {blanks : List Char} (hblanks : ∀ c ∈ blanks, isBlank c = true)
    (hsome : blanks ≠ []) (after : List Char) : Separated (blanks ++ after) := by
  cases blanks with
  | nil => exact absurd rfl hsome
  | cons b blanks =>
      rintro c ⟨⟩
      exact hblanks b List.mem_cons_self

/-- Blanks in front move the tokens, and nothing else. -/
theorem Cut.append_blank {blanks : List Char} (hblanks : ∀ c ∈ blanks, isBlank c = true)
    (h : Cut (position + blanks.length) chars placed) : Cut position (blanks ++ chars) placed := by
  induction blanks generalizing position with
  | nil => exact h
  | cons b blanks ih =>
      rw [List.forall_mem_cons] at hblanks
      refine .blank hblanks.1 (ih hblanks.2 ?_)
      rwa [List.length_cons, Nat.add_comm blanks.length, ← Nat.add_assoc] at h

/-- Words with blank characters behind each of them are cut apart again. -/
theorem cut_of_pieces {pieces : List Piece} (hsome : ∀ piece ∈ pieces, piece.blanks ≠ [])
    (position : Nat) :
    Cut position (pieces.flatMap Piece.chars) (placedFrom position pieces) := by
  induction pieces generalizing position with
  | nil => exact .done
  | cons piece pieces ih =>
      rw [List.forall_mem_cons] at hsome
      have hrest := ih hsome.2 (position + piece.chars.length)
      rw [List.flatMap_cons, placedFrom, Piece.chars, List.append_assoc]
      refine .word piece.word.spells
        ((separated_of_blank piece.isBlank_blanks hsome.1 _).endsBefore _)
        (.append_blank piece.isBlank_blanks ?_)
      rw [Nat.add_assoc, ← List.length_append]
      exact hrest

/-- The tokens of a text account for it, and words with blank characters behind each of them are the
tokens of what they make up. -/
theorem tokens_account_for_text :
    (∀ (text : String) (placed : List Placed), tokens? text = .ok placed →
      AccountsFor placed text) ∧
    ∀ (lead : List Char) (pieces : List Piece), (∀ c ∈ lead, isBlank c = true) →
      (∀ piece ∈ pieces, piece.blanks ≠ []) →
      tokens? (String.ofList (lead ++ pieces.flatMap Piece.chars)) =
        .ok (placedFrom lead.length pieces) := by
  refine ⟨fun text placed h => (tokens?_eq_ok_iff.mp h).accountsFor,
    fun lead pieces hlead hsome => ?_⟩
  rw [tokens?_eq_ok_iff, String.toList_ofList]
  refine .append_blank hlead ?_
  rw [Nat.zero_add]
  exact cut_of_pieces hsome lead.length

/-- Two operators, of which one begins as the other does, a text with the quote that stands around
it and a number, with various blank characters behind them. -/
def blankedPieces : List Piece :=
  [⟨.ofOperator .strictEqual, ['\u2003'], List.all_eq_true.mp rfl⟩,
    ⟨.ofOperator .equal, [' '], List.all_eq_true.mp rfl⟩,
    ⟨.ofText .single "it's", ['\n', ' '], List.all_eq_true.mp rfl⟩,
    ⟨.ofNumeral oneAndAHalf, ['\t'], List.all_eq_true.mp rfl⟩]

/-- Words that no blank character separates are read up to where they end, also between quotes and
for an operator that another begins as; separated words are read as they are. -/
theorem tokens_account_for_crowded_text :
    (∃ placed, tokens? "\u00a0flags.includes('don\\'t \"\\\\')&&1.50!==!S " = .ok placed ∧
      placed.map Placed.position = [1, 6, 7, 15, 16, 28, 29, 31, 35, 38, 39] ∧
      placed.map Placed.token = [.name "flags", .dot, .name "includes", .leftParen,
        .text "don't \"\\", .rightParen, .op .both, .number (Float.ofScientific 150 true 2),
        .op .strictDifferent, .op .bang, .name "S"] ∧
      AccountsFor placed "\u00a0flags.includes('don\\'t \"\\\\')&&1.50!==!S ") ∧
    tokens? " ===\u2003== 'it\\'s'\n 1.50\t" = .ok [⟨1, .op .strictEqual⟩, ⟨5, .op .equal⟩,
      ⟨8, .text "it's"⟩, ⟨17, .number (Float.ofScientific 150 true 2)⟩] := by
  refine ⟨⟨_, rfl, rfl, rfl, tokens_account_for_text.1 _ _ rfl⟩, ?_⟩
  exact tokens_account_for_text.2 [' '] blankedPieces (List.all_eq_true.mp rfl)
    (by simp [blankedPieces])

end Condition
end BranchingStory
