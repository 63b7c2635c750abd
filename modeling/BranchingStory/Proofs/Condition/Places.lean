import BranchingStory.Proofs.Condition.Blame
import BranchingStory.Proofs.Condition.Descent

/-!
# Places and cursors

A cursor holds the tokens that are left; a place counts those that have been taken.  Within the list
of the tokens and the end, what is read at a place is what is read at its cursor, taking a token
goes on to the next place, and insisting on a mark or taking an operator is the same in both ways.

The parsers that look at what comes next in several steps are brought into one form here: what they
do by what is found.
-/

namespace BranchingStory
namespace Condition

variable {tokens : List Placed} {finish place depth fuel : Nat} {text : String}
  {expr left : Expr} {level next : Level} {token : Token} {c : Cursor}

/-! ## Places and cursors -/

/-- The cursor at a place. -/
def cursorAt (tokens : List Placed) (finish place : Nat) : Cursor :=
  ⟨tokens.drop place, finish⟩

@[simp]
theorem length_rest_cursorAt :
    (cursorAt tokens finish place).rest.length = tokens.length - place :=
  List.length_drop

/-- The next token of the cursor is the one at the place. -/
theorem peek?_cursorAt : (cursorAt tokens finish place).peek? =
    tokens[place]?.map Placed.token := by
  rw [cursorAt, Cursor.peek?, List.head?_drop]

/-- The cursor is as far in the text as the token at the place, or at the end. -/
theorem position_cursorAt : (cursorAt tokens finish place).position =
    (tokens[place]?.map Placed.position).getD finish := by
  rw [cursorAt, Cursor.position, List.head?_drop]

/-- A place with a token is before the end. -/
theorem lt_of_peek? (h : (cursorAt tokens finish place).peek? = some token) :
    place < tokens.length := by
  rw [peek?_cursorAt] at h
  obtain ⟨placed, hplaced, -⟩ := Option.map_eq_some_iff.mp h
  exact (List.getElem?_eq_some_iff.mp hplaced).1

/-- A place without a token is the end. -/
theorem length_le_of_peek?_eq_none (h : (cursorAt tokens finish place).peek? = none) :
    tokens.length ≤ place := by
  rw [peek?_cursorAt, Option.map_eq_none_iff] at h
  exact List.getElem?_eq_none_iff.mp h

@[simp]
theorem length_entries : (entries tokens finish).length = tokens.length + 1 := by
  simp [entries]

/-- An entry that is read is what stands at the cursor. -/
theorem getElem?_entries (hplace : place ≤ tokens.length) :
    (entries tokens finish)[place]? =
      some ⟨(cursorAt tokens finish place).position, (cursorAt tokens finish place).peek?⟩ := by
  rw [position_cursorAt, peek?_cursorAt]
  rcases Nat.lt_or_eq_of_le hplace with hlt | rfl
  · simp [entries, List.getElem?_append_left, hlt]
  · simp [entries]

/-- The place after this one; behind the end there is none. -/
def placeAfter (tokens : List Placed) (place : Nat) : Nat :=
  min (place + 1) tokens.length

/-- Before the end, the place after this one is the next. -/
theorem placeAfter_of_lt (h : place < tokens.length) : placeAfter tokens place = place + 1 :=
  Nat.min_eq_left h

/-- Where there is a token, the place after it is the next. -/
theorem placeAfter_of_peek? (h : (cursorAt tokens finish place).peek? = some token) :
    placeAfter tokens place = place + 1 :=
  placeAfter_of_lt (lt_of_peek? h)

/-- No place is behind the end. -/
theorem placeAfter_le : placeAfter tokens place ≤ tokens.length :=
  Nat.min_le_right _ _

/-- Dropping a token from the cursor is going on to the place after it. -/
theorem advance_cursorAt :
    (cursorAt tokens finish place).advance =
      cursorAt tokens finish (placeAfter tokens place) := by
  unfold cursorAt Cursor.advance placeAfter
  rw [List.tail_drop]
  rcases Nat.le_total (place + 1) tokens.length with hle | hle
  · rw [Nat.min_eq_left hle]
  · rw [Nat.min_eq_right hle, List.drop_of_length_le hle, List.drop_length]

/-- The operator that comes next. -/
def Cursor.operator? (c : Cursor) : Option Operator :=
  match c.peek? with
  | some (.op o) => some o
  | _ => none

/-- A place with an operator is before the end. -/
theorem lt_of_operator? {β : Type} {meaning? : Operator → Option β} {meaning : β}
    (h : (cursorAt tokens finish place).operator?.bind meaning? = some meaning) :
    place < tokens.length := by
  rw [Cursor.operator?] at h
  cases hpeek : (cursorAt tokens finish place).peek? with
  | none =>
      rw [hpeek] at h
      cases h
  | some token => exact lt_of_peek? hpeek

/-! ## Reading -/

/-- Reading within the list finds what stands at the cursor. -/
theorem outcome_peek (hplace : place ≤ tokens.length) :
    (peek (entries tokens finish)).outcome place =
      ⟨.returned ⟨(cursorAt tokens finish place).position,
        (cursorAt tokens finish place).peek?⟩ place, 0⟩ := by
  simp only [peek, getElem?_entries hplace]

/-- Before the end there is a next place to go on to. -/
theorem outcome_skip (hlt : place < tokens.length) :
    (skip (entries tokens finish)).outcome place = ⟨.returned () (place + 1), 0⟩ :=
  if_pos (by simpa using hlt)

/-- Reading and going on finds the token at the cursor, and does not leave the list. -/
theorem outcome_advance (hplace : place ≤ tokens.length) :
    (advance (entries tokens finish)).outcome place =
      ⟨.returned (cursorAt tokens finish place).peek? (placeAfter tokens place), 0⟩ := by
  rw [advance, Descent.outcome_bind, outcome_peek hplace, Descent.andThen_returned]
  cases hpeek : (cursorAt tokens finish place).peek? with
  | some token => simp [outcome_skip (lt_of_peek? hpeek), placeAfter_of_peek? hpeek]
  | none =>
      have hend : placeAfter tokens place = place := by
        have := length_le_of_peek?_eq_none hpeek
        unfold placeAfter
        omega
      simp [hend]

/-- A fault at the place is one at the cursor. -/
theorem outcome_failHere {α : Type} (hplace : place ≤ tokens.length) (fault : Fault) :
    (failHere (entries tokens finish) fault : Descent α).outcome place =
      ⟨.failed (failAt (cursorAt tokens finish place) fault), 0⟩ := by
  rw [failHere, Descent.outcome_bind, outcome_peek hplace, Descent.andThen_returned,
    Descent.outcome_fail, failAt]

/-- Insisting on a mark looks at the token at the cursor. -/
theorem outcome_expect (hplace : place ≤ tokens.length) (mark : Mark) :
    (expect (entries tokens finish) mark).outcome place =
      if mark.isAt (cursorAt tokens finish place).peek? then
        ⟨.returned () (placeAfter tokens place), 0⟩
      else
        ⟨.failed (failAt (cursorAt tokens finish place)
          (.wanted mark.token (cursorAt tokens finish place).peek?)), 0⟩ := by
  rw [expect, Descent.outcome_bind, outcome_peek hplace, Descent.andThen_returned]
  split
  · rw [Descent.outcome_bind, outcome_advance hplace, Descent.andThen_returned,
      Descent.outcome_pure]
  · rw [outcome_failHere hplace]

/-- An operator that has a meaning is taken; anything else stays. -/
theorem outcome_eatOp {β : Type} (hplace : place ≤ tokens.length)
    (meaning? : Operator → Option β) :
    (eatOp (entries tokens finish) meaning?).outcome place =
      match (cursorAt tokens finish place).operator?.bind meaning? with
      | some meaning => ⟨.returned (some meaning) (place + 1), 0⟩
      | none => ⟨.returned none place, 0⟩ := by
  rw [eatOp, Descent.outcome_bind, outcome_peek hplace, Descent.andThen_returned]
  dsimp only
  rw [Cursor.operator?]
  cases hpeek : (cursorAt tokens finish place).peek? with
  | none => rfl
  | some token =>
      cases token with
      | op o =>
          cases hmeaning : meaning? o with
          | none => simp [hmeaning]
          | some meaning => simp [hmeaning, outcome_skip (lt_of_peek? hpeek)]
      | number _ | text _ | name _ | leftParen | rightParen | dot => rfl

/-! ## Parsers by what is found -/

/-- A name is found if the token is that name. -/
theorem isNamed_iff {name : String} {found : Option Token} :
    isNamed name found ↔ found = some (.name name) := by
  unfold isNamed
  split <;> simp_all

/-- Extension by an operator depends on the operator that comes next. -/
theorem byOperator_eq {binaryOp? : Operator → Option BinaryOp} {operand : Parser} (c : Cursor) :
    byOperator binaryOp? operand left c =
      (c.operator?.bind binaryOp?).map fun op =>
        match operand c.advance with
        | .error e => .error e
        | .ok (right, c') => .ok (.binary op left right, c') := by
  unfold byOperator Cursor.operator?
  rcases c.peek? with _ | token
  · rfl
  · cases token <;> rfl

/-- After `in` the name `flags` has to follow, and the fault is reported one token late. -/
theorem byMembership_eq (hpeek : c.peek? = some (.name "in")) :
    byMembership left c = some (
      if isNamed "flags" c.advance.peek? then .ok (.hasFlag left, c.advance.advance)
      else .error (failAt c.advance.advance (.wantedFlags c.advance.peek?))) := by
  unfold byMembership
  split
  · split
    · rename_i hflags
      rw [hflags, if_pos (isNamed_iff.mpr rfl)]
    · rename_i hflags
      rw [if_neg (fun h => hflags (isNamed_iff.mp h))]
  · rename_i hother
    exact absurd hpeek hother

/-- Without `in` there is no membership test. -/
theorem byMembership_eq_none (hpeek : c.peek? ≠ some (.name "in")) :
    byMembership left c = none := by
  unfold byMembership
  split
  · rename_i h
    exact absurd h hpeek
  · rfl

/-- Only a comparison goes on with `in`. -/
theorem extensionAt_eq {operand : Parser} :
    extensionAt operand level left c =
      if level = .comparison ∧ isNamed "in" c.peek? then byMembership left c
      else byOperator (binaryOp? level) operand left c := by
  cases level with
  | comparison =>
      rw [extensionAt]
      split
      · rename_i h
        rw [byMembership_eq (isNamed_iff.mp h.2), Option.some_or]
      · rename_i h
        rw [byMembership_eq_none fun hpeek => h ⟨rfl, isNamed_iff.mpr hpeek⟩, Option.none_or]
        rfl
  | disjunction | conjunction | equality | additive | multiplicative | unary | primary =>
      rw [if_neg (fun h => absurd h.1 (by decide))]
      rfl

/-- A round that adds an operand, and the rounds after it. -/
theorem extendAll_of_operator? {operand : Parser} {op : BinaryOp}
    (hin : ¬ (level = .comparison ∧ isNamed "in" c.peek?))
    (hfound : c.operator?.bind (binaryOp? level) = some op) (fuel : Nat) :
    extendAll (extensionAt operand level) (fuel + 1) left c =
      match operand c.advance with
      | .error e => .error e
      | .ok (right, c') =>
          extendAll (extensionAt operand level) fuel (.binary op left right) c' := by
  rw [extendAll, extensionAt_eq, if_neg hin, byOperator_eq, hfound, Option.map_some]
  rcases operand c.advance with e | ⟨right, c'⟩ <;> rfl

/-- An operator in front makes something of an operand, which has operators in front again. -/
theorem unary_eq {nested : Parser} (c : Cursor) :
    unary nested c =
      match c.operator?.bind prefixOp? with
      | some build =>
          match unary nested c.advance with
          | .error e => .error e
          | .ok (operand, c') => .ok (build operand, c')
      | none => primary nested c := by
  obtain ⟨rest, finish⟩ := c
  rcases rest with _ | ⟨⟨position, token⟩, rest⟩
  · rfl
  cases token with
  | number _ | text _ | name _ | leftParen | rightParen | dot => rfl
  | op o =>
      cases o with
      | plus =>
          have hadvance : unary nested ⟨⟨position, .op .plus⟩ :: rest, finish⟩ =
              unary nested ⟨rest, finish⟩ := rfl
          rw [hadvance]
          dsimp only [Cursor.operator?, Cursor.peek?, Cursor.advance, prefixOp?, List.head?_cons,
            Option.map_some, Option.bind_some, List.tail_cons]
          rcases unary nested ⟨rest, finish⟩ with e | ⟨operand, c'⟩ <;> rfl
      | _ => rfl

/-- What may follow `flags` depends on the name behind the point. -/
theorem flagsMember_eq {nested : Parser} (c : Cursor) :
    flagsMember nested c =
      match take .dot c with
      | .error e => .error e
      | .ok c =>
          if isNamed "includes" c.peek? then
            match take .leftParen c.advance with
            | .error e => .error e
            | .ok c =>
                match nested c with
                | .error e => .error e
                | .ok (name, c) =>
                    match take .rightParen c with
                    | .error e => .error e
                    | .ok c => .ok (.hasFlag name, c)
          else if isNamed "length" c.peek? then .ok (.symbol .flagCount, c.advance)
          else
            match c.peek? with
            | some (.name other) => .error (.unknownSymbol ("flags." ++ other))
            | found => .error (failAt c.advance (.wantedMember found)) := by
  rw [flagsMember]
  cases take .dot c with
  | error e => rfl
  | ok c =>
      dsimp only
      split
      · rename_i hpeek
        rw [hpeek]
        rfl
      · rename_i hpeek
        rw [hpeek]
        rfl
      · rename_i other hincludes hlength hpeek
        rw [hpeek, if_neg, if_neg]
        · exact fun h => hlength (eq_of_beq h)
        · exact fun h => hincludes (eq_of_beq h)
      · rename_i hincludes hlength hother
        rw [if_neg (fun h => hincludes (isNamed_iff.mp h)),
          if_neg (fun h => hlength (isNamed_iff.mp h))]
        split
        · rename_i other hpeek
          exact absurd hpeek (hother other)
        · rfl

end Condition
end BranchingStory
