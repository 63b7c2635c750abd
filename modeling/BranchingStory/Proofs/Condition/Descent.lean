import BranchingStory.Proofs.Condition.Soundness

/-!
# Parsing by places

The parser once more, as it works on the list of tokens itself.  The end of the text is the last
entry of the list, and a place in the list says how far the parser has come.  Nothing is checked in
advance: leaving the list and a call that is not allowed any more are endings of their own, next to
a result and an error, and every call and every round of a loop counts as a step.

A parsing function is given the functions that it calls, so that `descendBody` is what one call
does, and `descend` ties the knot for a number of calls inside one another.  `descendAll` parses the
whole list.
-/

namespace BranchingStory
namespace Condition

/-! ## Work by places -/

/-- How work by places ends. -/
inductive Ending (α : Type) where
  /-- With a value, at a place. -/
  | returned (value : α) (place : Nat)
  | failed (error : Error)
  /-- At a read outside of the list, or a move out of it. -/
  | astray
  /-- At a call that is not allowed any more. -/
  | unfinished

/-- How work ends, and the steps until then. -/
structure Outcome (α : Type) where
  ending : Ending α
  steps : Nat

/-- Work that begins at a place. -/
structure Descent (α : Type) where
  outcome : Nat → Outcome α

variable {α β : Type}

/-- The outcome of going on with other work. -/
def Outcome.andThen (o : Outcome α) (f : α → Descent β) : Outcome β :=
  match o.ending with
  | .returned a place => ⟨((f a).outcome place).ending, o.steps + ((f a).outcome place).steps⟩
  | .failed e => ⟨.failed e, o.steps⟩
  | .astray => ⟨.astray, o.steps⟩
  | .unfinished => ⟨.unfinished, o.steps⟩

namespace Descent

instance : Monad Descent where
  pure a := ⟨fun place => ⟨.returned a place, 0⟩⟩
  bind x f := ⟨fun place => (x.outcome place).andThen f⟩

@[simp]
theorem outcome_pure (a : α) (place : Nat) :
    (pure a : Descent α).outcome place = ⟨.returned a place, 0⟩ :=
  rfl

@[simp]
theorem outcome_bind (x : Descent α) (f : α → Descent β) (place : Nat) :
    (x >>= f).outcome place = (x.outcome place).andThen f :=
  rfl

@[simp]
theorem andThen_returned (a : α) (place : Nat) (f : α → Descent β) :
    (⟨.returned a place, 0⟩ : Outcome α).andThen f = (f a).outcome place := by
  simp [Outcome.andThen]

@[simp]
theorem andThen_failed (e : Error) (f : α → Descent β) :
    (⟨.failed e, 0⟩ : Outcome α).andThen f = ⟨.failed e, 0⟩ :=
  rfl

/-- End with an error. -/
def fail (e : Error) : Descent α where
  outcome _ := ⟨.failed e, 0⟩

/-- Count a step. -/
def tick : Descent Unit where
  outcome place := ⟨.returned () place, 1⟩

/-- Not allowed any more. -/
def giveUp : Descent α where
  outcome _ := ⟨.unfinished, 0⟩

@[simp]
theorem outcome_fail (e : Error) (place : Nat) :
    (fail e : Descent α).outcome place = ⟨.failed e, 0⟩ :=
  rfl

end Descent

/-! ## Reading the list -/

/-- A token, or the end of the text, with the number of characters before it. -/
structure Entry where
  position : Nat
  /-- There is none at the end of the text. -/
  token : Option Token

/-- The tokens, and the end of the text behind them. -/
def entries (tokens : List Placed) (finish : Nat) : List Entry :=
  tokens.map (fun placed => ⟨placed.position, some placed.token⟩) ++ [⟨finish, none⟩]

/-- Whether a certain name has been found. -/
def isNamed (name : String) : Option Token → Bool
  | some (.name found) => found == name
  | _ => false

section Reading

variable (list : List Entry)

/-- Read the entry at the place. -/
def peek : Descent Entry where
  outcome place :=
    match list[place]? with
    | some entry => ⟨.returned entry place, 0⟩
    | none => ⟨.astray, 0⟩

/-- Go on to the next place. -/
def skip : Descent Unit where
  outcome place :=
    if place + 1 < list.length then ⟨.returned () (place + 1), 0⟩ else ⟨.astray, 0⟩

/-- Read the entry at the place and go on to the next, unless this is the end. -/
def advance : Descent (Option Token) := do
  let entry ← peek list
  if entry.token.isSome then skip list
  return entry.token

/-- End with a fault at the place. -/
def failHere (fault : Fault) : Descent α := do
  let entry ← peek list
  Descent.fail (.malformed entry.position fault)

/-- Take an operator that has a meaning. -/
def eatOp (meaning? : Operator → Option β) : Descent (Option β) := do
  let entry ← peek list
  match entry.token with
  | some (.op o) =>
      match meaning? o with
      | some meaning =>
          skip list
          return some meaning
      | none => return none
  | _ => return none

/-- Insist on a mark. -/
def expect (mark : Mark) : Descent Unit := do
  let entry ← peek list
  if mark.isAt entry.token then
    let _ ← advance list
    return ()
  else
    failHere list (.wanted mark.token entry.token)

/-! ## Parsing functions -/

/-- A call of a parsing function, or a round of a loop. -/
inductive Call where
  /-- An expression of a level. -/
  | level (level : Level)
  /-- What extends an expression of a level. -/
  | extend (level : Level) (left : Expr)
  /-- What a name that has been taken means. -/
  | named (name : String)
  /-- What may follow `flags`. -/
  | member

variable (call : Call → Descent Expr)

/-- What an operator in front of an operand makes of it. -/
def prefixOp? : Operator → Option (Expr → Expr)
  | .bang => some (.unary .not)
  | .minus => some (.unary .negate)
  | .plus => some id
  | _ => none

/-- Literals, names and parentheses. -/
def descendPrimary : Descent Expr := do
  let entry ← peek list
  match ← advance list with
  | some (.number x) => return .literal (.number x)
  | some (.text s) => return .literal (.text s)
  | some .leftParen =>
      let inner ← call (.level .disjunction)
      expect list .rightParen
      return inner
  | some (.name name) => call (.named name)
  | found => Descent.fail (.malformed entry.position (.wantedValue found))

/-- An operand with the operators in front of it. -/
def descendUnary : Descent Expr := do
  match ← eatOp list prefixOp? with
  | some build =>
      let operand ← call (.level .unary)
      return build operand
  | none => call (.level .primary)

/-- One round of the loop of a level. -/
def descendExtend (level : Level) (left : Expr) : Descent Expr := do
  let entry ← peek list
  if level = .comparison ∧ isNamed "in" entry.token then
    let _ ← advance list
    let found ← advance list
    if isNamed "flags" found then call (.extend level (.hasFlag left))
    else failHere list (.wantedFlags found)
  else
    match ← eatOp list (binaryOp? level) with
    | some op =>
        let right ← call (.level (level.tighter?.getD .primary))
        call (.extend level (.binary op left right))
    | none => return left

/-- What a name means. -/
def descendNamed (name : String) : Descent Expr :=
  if name = "true" then return .literal (.truth true)
  else if name = "false" then return .literal (.truth false)
  else if name = "location" then return .symbol .location
  else if name = "flags" then call .member
  else
    match Stat.ofKey? name with
    | some stat => return .symbol (.stat stat)
    | none => Descent.fail (.unknownSymbol name)

/-- What may follow `flags`. -/
def descendMember : Descent Expr := do
  expect list .dot
  let found ← advance list
  if isNamed "includes" found then
    expect list .leftParen
    let name ← call (.level .disjunction)
    expect list .rightParen
    return .hasFlag name
  else if isNamed "length" found then
    return .symbol .flagCount
  else
    match found with
    | some (.name other) => Descent.fail (.unknownSymbol ("flags." ++ other))
    | found => failHere list (.wantedMember found)

/-- What one call does, where further calls are given. -/
def descendBody : Call → Descent Expr
  | .level .primary => descendPrimary list call
  | .level .unary => descendUnary list call
  | .level level => do
      let left ← call (.level (level.tighter?.getD .primary))
      call (.extend level left)
  | .extend level left => descendExtend list call level left
  | .named name => descendNamed call name
  | .member => descendMember list call

/-- A call, where only so many calls may stand inside one another. -/
def descend : Nat → Call → Descent Expr
  | 0, _ => Descent.giveUp
  | depth + 1, c => do
      Descent.tick
      descendBody list (descend depth) c

/-- The expression that all of the list makes up. -/
def descendAll (depth : Nat) : Descent Expr := do
  let expr ← descend list depth (.level .disjunction)
  let entry ← peek list
  match entry.token with
  | none => return expr
  | some found => failHere list (.leftOver found)

end Reading

end Condition
end BranchingStory
