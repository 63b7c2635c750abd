import BranchingStory.Proofs.Condition.Completeness
import BranchingStory.Proofs.Condition.Spelling

/-!
# Writing conditions

A written condition is a tree together with the spelling of each of its parts: the digits of every
number, the quotes of every text, and for every test for a flag and every comparison which of its
spellings it has.  It is written with a space between any two words, and with parentheses around an
operand only where the operand would otherwise be taken apart: where its operator binds looser than
the place asks for, or as strongly, on the right of an operator.

Reading it gives its tree back.  The words make up a condition of the grammar with that tree, by
induction on the written condition, and they are separated, so the characters are cut into just
these words.

Main results:

- `Written.derives`: the words of a written condition derive its tree.
- `Written.parse_render`: reading a written condition gives its tree.
- `Written.exists_tree_eq`: every tree whose numbers have numerals can be written.
- `Expr.written_reads_back`: a tree can be written, and however it is written it is read back.
-/

namespace BranchingStory
namespace Condition

/-! ## Words -/

/-- A token with characters that spell it. -/
structure Word where
  chars : List Char
  token : Token
  spells : Spells chars token

/-- A number as it is written: digits and at most one point, the first of them a digit. -/
structure Numeral where
  first : Char
  others : List Char
  value : Float
  isDigit_first : first.isDigit = true
  isNumberChar_others : ∀ c ∈ others, isNumberChar c = true
  numberValue?_eq : numberValue? (first :: others) = some value

/-- The characters that can stand around a text. -/
inductive QuoteMark where
  | double
  | single
deriving DecidableEq, Repr

/-- The quote mark as a character. -/
def QuoteMark.char : QuoteMark → Char
  | double => '"'
  | single => '\''

/-- A text is quoted by one of two characters. -/
theorem QuoteMark.char_eq (mark : QuoteMark) : mark.char = '"' ∨ mark.char = '\'' := by
  cases mark <;> simp [char]

/-- The characters of a text between quotes: a backslash is put before the quote and before every
backslash. -/
def escape (quote : Char) : List Char → List Char
  | [] => []
  | c :: rest =>
      if c = quote ∨ c = '\\' then '\\' :: c :: escape quote rest else c :: escape quote rest

/-- The escaped characters of a text stand for the text. -/
theorem quotes_escape (quote : Char) (contents : List Char) :
    Quotes quote (escape quote contents) contents := by
  induction contents with
  | nil => exact .nil
  | cons c rest ih =>
      rw [escape]
      split
      · exact .escaped ih
      · rename_i hplain
        rw [not_or] at hplain
        exact .plain hplain.1 hplain.2 ih

/-- Whether a string is a name. -/
def isName (s : String) : Bool :=
  match s.toList with
  | first :: others => isNameStart first && others.all isNameChar
  | [] => false

/-- A name spells itself. -/
theorem spells_of_isName {s : String} (h : isName s = true) : Spells s.toList (.name s) := by
  unfold isName at h
  split at h
  · rename_i first others hs
    rw [Bool.and_eq_true, List.all_eq_true] at h
    have hspells : Spells (first :: others) (.name (String.ofList (first :: others))) :=
      .name h.1 h.2
    rwa [← hs, String.ofList_toList] at hspells
  · cases h

namespace Word

/-- A number, written as a numeral. -/
def ofNumeral (numeral : Numeral) : Word where
  chars := numeral.first :: numeral.others
  token := .number numeral.value
  spells := .number numeral.isDigit_first numeral.isNumberChar_others numeral.numberValue?_eq

/-- A text between quotes. -/
def ofText (mark : QuoteMark) (s : String) : Word where
  chars := mark.char :: (escape mark.char s.toList ++ [mark.char])
  token := .text s
  spells := by
    have hspells := Spells.text mark.char_eq (quotes_escape mark.char s.toList)
    rwa [String.ofList_toList] at hspells

/-- A name. -/
def ofName (s : String) (h : isName s = true) : Word where
  chars := s.toList
  token := .name s
  spells := spells_of_isName h

/-- An operator. -/
def ofOperator (o : Operator) : Word where
  chars := o.spelling.toList
  token := .op o
  spells := .op o

/-- A left parenthesis. -/
def leftParen : Word where
  chars := ['(']
  token := .leftParen
  spells := .leftParen

/-- A right parenthesis. -/
def rightParen : Word where
  chars := [')']
  token := .rightParen
  spells := .rightParen

/-- A point. -/
def dot : Word where
  chars := ['.']
  token := .dot
  spells := .dot

end Word

/-! ## Written conditions -/

/-- An operator between two operands: how it is written, what it means and how strongly it binds. -/
structure Connective where
  level : Level
  sign : Operator
  meaning : BinaryOp
  joins : Joins level sign meaning

/-- A condition as it is written. -/
inductive Written where
  | number (numeral : Numeral)
  | text (mark : QuoteMark) (contents : String)
  | truth (b : Bool)
  | symbol (symbol : Symbol)
  | unary (op : UnaryOp) (operand : Written)
  | binary (connective : Connective) (left right : Written)
  /-- A test for a flag, written `name in flags`. -/
  | member (name : Written)
  /-- A test for a flag, written `flags.includes(name)`. -/
  | includes (name : Written)

/-- The operator that is written for an operation on one value. -/
def UnaryOp.sign : UnaryOp → Operator
  | not => .bang
  | negate => .minus

/-- The symbol of a stat is a name. -/
theorem isName_key (stat : Stat) : isName stat.key = true := by
  cases stat <;> decide

/-- The words of a symbol. -/
def Symbol.words : Symbol → List Word
  | .stat x => [.ofName x.key (isName_key x)]
  | .location => [.ofName "location" (by decide)]
  | .flagCount => [.ofName "flags" (by decide), .dot, .ofName "length" (by decide)]

/-- Words in parentheses, if they need them. -/
def enclose (needed : Prop) [Decidable needed] (words : List Word) : List Word :=
  if needed then .leftParen :: (words ++ [.rightParen]) else words

namespace Written

/-- The tree of a written condition. -/
def tree : Written → Expr
  | number numeral => .literal (.number numeral.value)
  | text _ contents => .literal (.text contents)
  | truth b => .literal (.truth b)
  | symbol x => .symbol x
  | unary op operand => .unary op operand.tree
  | binary connective left right => .binary connective.meaning left.tree right.tree
  | member name => .hasFlag name.tree
  | includes name => .hasFlag name.tree

/-- How strongly the operator of a written condition binds; what has none is a primary. -/
def level : Written → Level
  | number _ | text _ _ | truth _ | symbol _ | includes _ => .primary
  | unary _ _ => .unary
  | binary connective _ _ => connective.level
  | member _ => .comparison

/-- The words of a written condition.  An operand is put in parentheses if its operator binds
looser than its place asks for, and on the right of an operator also if it binds as strongly. -/
def words : Written → List Word
  | number numeral => [.ofNumeral numeral]
  | text mark contents => [.ofText mark contents]
  | truth true => [.ofName "true" (by decide)]
  | truth false => [.ofName "false" (by decide)]
  | symbol x => x.words
  | unary op operand =>
      .ofOperator op.sign
        :: enclose (operand.level.strength < Level.unary.strength) operand.words
  | binary connective left right =>
      enclose (left.level.strength < connective.level.strength) left.words
        ++ .ofOperator connective.sign
        :: enclose (right.level.strength ≤ connective.level.strength) right.words
  | member name =>
      enclose (name.level.strength < Level.comparison.strength) name.words
        ++ [.ofName "in" (by decide), .ofName "flags" (by decide)]
  | includes name =>
      [.ofName "flags" (by decide), .dot, .ofName "includes" (by decide), .leftParen]
        ++ (name.words ++ [.rightParen])

/-- The text of a written condition: its words with a space between any two of them. -/
def render (w : Written) : String :=
  String.ofList ([' '].intercalate (w.words.map Word.chars))

end Written

/-! ## Reading a written condition -/

/-- A level that has operators has operands on a tighter level. -/
theorem Joins.exists_tighter {level : Level} {o : Operator} {op : BinaryOp} (h : Joins level o op) :
    ∃ next, level.tighter? = some next := by
  cases h <;> exact ⟨_, rfl⟩

/-- From a looser level there is a next tighter one on the way to the level. -/
theorem Level.eq_or_exists_tighter {level looser : Level} (h : looser.strength ≤ level.strength) :
    looser = level ∨
      ∃ next, looser.tighter? = some next ∧ next.strength ≤ level.strength := by
  cases level <;> cases looser <;> revert h <;> decide +revert

/-- An expression of a level is one of every looser level. -/
theorem Derives.loosen {level looser : Level} {tokens : List Token} {expr : Expr}
    (h : Derives level tokens expr) (hle : looser.strength ≤ level.strength) :
    Derives looser tokens expr := by
  rcases Level.eq_or_exists_tighter hle with rfl | ⟨next, hnext, hle'⟩
  · exact h
  · exact .tighter hnext (h.loosen hle')
termination_by level.strength - looser.strength
decreasing_by
  have hstrength := Level.strength_of_tighter? hnext
  omega

/-- Words that are enclosed where they need it fit the place of an operand. -/
theorem derives_enclose {level place : Level} {words : List Word} {expr : Expr} {needed : Prop}
    [Decidable needed] (h : Derives level (words.map Word.token) expr)
    (hfits : ¬ needed → place.strength ≤ level.strength) :
    Derives place ((enclose needed words).map Word.token) expr := by
  unfold enclose
  split
  · rw [List.map_cons, List.map_append]
    exact (Derives.parens (h.loosen (Nat.zero_le _))).loosen place.strength_le_primary
  · rename_i hnot
    exact h.loosen (hfits hnot)

namespace Written

/-- The words of a written condition derive its tree. -/
theorem derives (w : Written) : Derives w.level (w.words.map Word.token) w.tree := by
  induction w with
  | number numeral => exact .number numeral.value
  | text mark contents => exact .text contents
  | truth b =>
      cases b with
      | true => exact .true
      | false => exact .false
  | symbol x =>
      cases x with
      | stat x => exact .stat x
      | location => exact .location
      | flagCount => exact .flagCount
  | unary op operand ih =>
      have hoperand : Derives .unary ((enclose (operand.level.strength < Level.unary.strength)
          operand.words).map Word.token) operand.tree := derives_enclose ih Nat.le_of_not_lt
      cases op with
      | not => exact .not hoperand
      | negate => exact .negate hoperand
  | binary connective left right ihleft ihright =>
      obtain ⟨next, hnext⟩ := connective.joins.exists_tighter
      have hright : ¬ right.level.strength ≤ connective.level.strength →
          next.strength ≤ right.level.strength := by
        rw [Level.strength_of_tighter? hnext]
        exact Nat.lt_of_not_le
      rw [words, List.map_append, List.map_cons]
      exact .operator connective.joins hnext (derives_enclose ihleft Nat.le_of_not_lt)
        (derives_enclose ihright hright)
  | member name ih =>
      rw [words, List.map_append]
      exact .membership (derives_enclose ih Nat.le_of_not_lt)
  | includes name ih =>
      rw [words, List.map_append, List.map_append]
      exact .includes (ih.loosen (Nat.zero_le _))

end Written

/-- Words with a space between any two of them are cut apart again, from every position. -/
theorem exists_cut (words : List Word) (position : Nat) :
    ∃ placed, Cut position ([' '].intercalate (words.map Word.chars)) placed ∧
      placed.map Placed.token = words.map Word.token := by
  induction words generalizing position with
  | nil => exact ⟨[], .done, rfl⟩
  | cons word others ih =>
      cases others with
      | nil =>
          refine ⟨[⟨position, word.token⟩], ?_, rfl⟩
          have hend : Separated [] := nofun
          have hcut : Cut position (word.chars ++ []) [⟨position, word.token⟩] :=
            .word word.spells (hend.endsBefore word.token) .done
          simpa using hcut
      | cons next others =>
          obtain ⟨placed, hcut, htokens⟩ := ih (position + word.chars.length + 1)
          refine ⟨⟨position, word.token⟩ :: placed, ?_, congrArg (word.token :: ·) htokens⟩
          rw [List.map_cons, List.map_cons, List.intercalate_cons_cons, List.append_assoc]
          refine .word word.spells (Separated.endsBefore ?_ _) (.blank rfl hcut)
          rintro c ⟨⟩
          rfl

namespace Written

/-- What is written is read back. -/
theorem parse_render (w : Written) : Expr.parse w.render = .ok w.tree := by
  obtain ⟨placed, hcut, htokens⟩ := exists_cut w.words 0
  have htext : tokens? w.render = .ok placed := by
    rw [tokens?_eq_ok_iff, render, String.toList_ofList]
    exact hcut
  refine (Expr.parse_eq_ok_iff _ _).mpr ⟨placed, htext, ?_⟩
  rw [htokens]
  exact w.derives.loosen (Nat.zero_le _)

end Written

/-! ## Writing a tree -/

/-- The numbers in a tree, from left to right. -/
def Expr.numbers : Expr → List Float
  | literal (.number x) => [x]
  | literal (.text _) | literal (.truth _) | symbol _ => []
  | unary _ operand => operand.numbers
  | binary _ left right => left.numbers ++ right.numbers
  | hasFlag name => name.numbers

/-- Every operation on two values can be written. -/
theorem exists_connective (op : BinaryOp) : ∃ connective : Connective, connective.meaning = op := by
  cases op with
  | or => exact ⟨⟨_, _, _, .either⟩, rfl⟩
  | and => exact ⟨⟨_, _, _, .both⟩, rfl⟩
  | equal => exact ⟨⟨_, _, _, .equal⟩, rfl⟩
  | different => exact ⟨⟨_, _, _, .different⟩, rfl⟩
  | less => exact ⟨⟨_, _, _, .less⟩, rfl⟩
  | atMost => exact ⟨⟨_, _, _, .atMost⟩, rfl⟩
  | greater => exact ⟨⟨_, _, _, .greater⟩, rfl⟩
  | atLeast => exact ⟨⟨_, _, _, .atLeast⟩, rfl⟩
  | add => exact ⟨⟨_, _, _, .plus⟩, rfl⟩
  | subtract => exact ⟨⟨_, _, _, .minus⟩, rfl⟩
  | multiply => exact ⟨⟨_, _, _, .times⟩, rfl⟩
  | divide => exact ⟨⟨_, _, _, .divide⟩, rfl⟩
  | modulo => exact ⟨⟨_, _, _, .modulo⟩, rfl⟩

/-- Every tree whose numbers have numerals can be written. -/
theorem Written.exists_tree_eq {expr : Expr}
    (h : ∀ x ∈ expr.numbers, ∃ numeral : Numeral, numeral.value = x) :
    ∃ w : Written, w.tree = expr := by
  induction expr with
  | literal v =>
      cases v with
      | number x =>
          obtain ⟨numeral, rfl⟩ := h x (List.mem_singleton_self x)
          exact ⟨.number numeral, rfl⟩
      | text s => exact ⟨.text .double s, rfl⟩
      | truth b => exact ⟨.truth b, rfl⟩
  | symbol x => exact ⟨.symbol x, rfl⟩
  | unary op operand ih =>
      obtain ⟨w, rfl⟩ := ih h
      exact ⟨.unary op w, rfl⟩
  | binary op left right ihleft ihright =>
      obtain ⟨connective, rfl⟩ := exists_connective op
      obtain ⟨wleft, rfl⟩ := ihleft fun x hx => h x (List.mem_append_left _ hx)
      obtain ⟨wright, rfl⟩ := ihright fun x hx => h x (List.mem_append_right _ hx)
      exact ⟨.binary connective wleft wright, rfl⟩
  | hasFlag name ih =>
      obtain ⟨w, rfl⟩ := ih h
      exact ⟨.member w, rfl⟩

/-- A tree whose numbers have numerals can be written, and it is read back from every way to write
it. -/
theorem Expr.written_reads_back (expr : Expr)
    (h : ∀ x ∈ expr.numbers, ∃ numeral : Numeral, numeral.value = x) :
    (∃ w : Written, w.tree = expr) ∧
      ∀ w : Written, w.tree = expr → Expr.parse w.render = .ok expr := by
  refine ⟨Written.exists_tree_eq h, ?_⟩
  rintro w rfl
  exact w.parse_render

/-- The numeral `1.50`. -/
def oneAndAHalf : Numeral where
  first := '1'
  others := ['.', '5', '0']
  value := Float.ofScientific 150 true 2
  isDigit_first := rfl
  isNumberChar_others := List.all_eq_true.mp rfl
  numberValue?_eq := rfl

/-- Either a flag with quotes, backslashes and line breaks in its name is set, or one whose name is
a difference, on the right of which stands another difference. -/
def quotedWritten : Written :=
  .binary ⟨_, _, _, .either⟩ (.includes (.text .single "don't \\ \n\"→\""))
    (.member (.binary ⟨_, _, _, .minus⟩ (.symbol (.stat .safety))
      (.binary ⟨_, _, _, .minus⟩
        (.unary .negate
          (.binary ⟨_, _, _, .plus⟩ (.symbol (.stat .resources)) (.number oneAndAHalf)))
        (.symbol (.stat .mobility)))))

/-- Only two operands of the sample stand in parentheses, and only the quote around its text and the
backslash in it are escaped. -/
theorem written_reads_back_quotedWritten :
    quotedWritten.render =
        "flags . includes ( 'don\\'t \\\\ \n\"→\"' ) || S - ( - ( R + 1.50 ) - M ) in flags" ∧
      Expr.parse quotedWritten.render = .ok (.binary .or
        (.hasFlag (.literal (.text "don't \\ \n\"→\"")))
        (.hasFlag (.binary .subtract (.symbol (.stat .safety))
          (.binary .subtract
            (.unary .negate (.binary .add (.symbol (.stat .resources))
              (.literal (.number (Float.ofScientific 150 true 2)))))
            (.symbol (.stat .mobility)))))) := by
  have hnumbers : ∀ x ∈ quotedWritten.tree.numbers, ∃ numeral : Numeral, numeral.value = x :=
    fun x hx => ⟨oneAndAHalf, (List.mem_singleton.mp hx).symm⟩
  exact ⟨rfl, (Expr.written_reads_back quotedWritten.tree hnumbers).2 quotedWritten rfl⟩

end Condition
end BranchingStory
