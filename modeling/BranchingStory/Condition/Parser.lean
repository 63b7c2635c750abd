import BranchingStory.Condition.Lexer

/-!
# Parsing conditions

A recursive descent over the tokens, one level for each strength of binding, loosest first:

- `a || b`
- `a && b`
- `==`, `===`, `!=`, `!==`
- `<`, `<=`, `>`, `>=`, `x in flags`
- `+`, `-`
- `*`, `/`, `%`
- `!`, `-`, `+` in front of an operand
- literals, stat symbols, `location`, `flags.includes(x)`, `flags.length`, `( ... )`

All binary operators associate to the left.  A parser works on a `Cursor`, the tokens that are left;
one that succeeds has taken at least one token.  Each level is built from the next tighter one, and
the tightest from a parser for nested conditions, so the only recursion is on the depth of nesting,
which the number of tokens bounds.
-/

namespace BranchingStory
namespace Condition

/-- The tokens that are left, and the length of the whole text. -/
structure Cursor where
  rest : List Placed
  finish : Nat

namespace Cursor

/-- The next token, unless the condition is at its end. -/
def peek? (c : Cursor) : Option Token :=
  c.rest.head?.map Placed.token

/-- Where the next token starts, or the length of the text at its end. -/
def position (c : Cursor) : Nat :=
  (c.rest.head?.map Placed.position).getD c.finish

/-- The cursor after the next token. -/
def advance (c : Cursor) : Cursor :=
  { c with rest := c.rest.tail }

end Cursor

/-- A parser takes tokens from the front and gives an expression. -/
abbrev Parser := Cursor → Except Error (Expr × Cursor)

/-- An error at the next token. -/
def failAt (c : Cursor) (fault : Fault) : Error :=
  .malformed c.position fault

/-! ## Building blocks -/

/-- Take a mark, which has to come next. -/
def take (mark : Mark) (c : Cursor) : Except Error Cursor :=
  if mark.isAt c.peek? then .ok c.advance
  else .error (failAt c (.wanted mark.token c.peek?))

/-- A way to extend an expression to the right: `none` if the next token does not extend it. -/
abbrev Extension := Expr → Cursor → Option (Except Error (Expr × Cursor))

/-- Extend an expression as often as possible.  The fuel bounds the number of tokens. -/
def extendAll (extend : Extension) : Nat → Expr → Parser
  | 0, left, c => .ok (left, c)
  | fuel + 1, left, c =>
      match extend left c with
      | none => .ok (left, c)
      | some (.error e) => .error e
      | some (.ok (left', c')) => extendAll extend fuel left' c'

/-- An operand, extended to the right as often as possible. -/
def operandThen (operand : Parser) (extend : Extension) : Parser := fun c =>
  match operand c with
  | .error e => .error e
  | .ok (left, c') => extendAll extend c'.rest.length left c'

/-- Extension by an operator and a right operand. -/
def byOperator (binaryOp? : Operator → Option BinaryOp) (operand : Parser) : Extension :=
  fun left c =>
    match c.peek? with
    | some (.op o) =>
        (binaryOp? o).map fun op =>
          match operand c.advance with
          | .error e => .error e
          | .ok (right, c') => .ok (.binary op left right, c')
    | _ => none

/-! ## Operators of each level -/

/-- Operators of the loosest level. -/
def orOp? : Operator → Option BinaryOp
  | .either => some .or
  | _ => none

/-- Operators of the conjunction level. -/
def andOp? : Operator → Option BinaryOp
  | .both => some .and
  | _ => none

/-- Operators of the equality level; the strict spellings mean the same as the plain ones. -/
def equalityOp? : Operator → Option BinaryOp
  | .strictEqual | .equal => some .equal
  | .strictDifferent | .different => some .different
  | _ => none

/-- Operators of the comparison level. -/
def comparisonOp? : Operator → Option BinaryOp
  | .atMost => some .atMost
  | .atLeast => some .atLeast
  | .less => some .less
  | .greater => some .greater
  | _ => none

/-- Operators of the additive level. -/
def additiveOp? : Operator → Option BinaryOp
  | .plus => some .add
  | .minus => some .subtract
  | _ => none

/-- Operators of the multiplicative level. -/
def multiplicativeOp? : Operator → Option BinaryOp
  | .times => some .multiply
  | .divide => some .divide
  | .modulo => some .modulo
  | _ => none

/-! ## Levels -/

/-- What may follow `flags`: a membership test or the number of flags.  A wrong token is reported
where the token after it starts. -/
def flagsMember (nested : Parser) : Parser := fun c =>
  match take .dot c with
  | .error e => .error e
  | .ok c =>
      match c.peek? with
      | some (.name "includes") =>
          match take .leftParen c.advance with
          | .error e => .error e
          | .ok c =>
              match nested c with
              | .error e => .error e
              | .ok (name, c) =>
                  match take .rightParen c with
                  | .error e => .error e
                  | .ok c => .ok (.hasFlag name, c)
      | some (.name "length") => .ok (.symbol .flagCount, c.advance)
      | some (.name other) => .error (.unknownSymbol ("flags." ++ other))
      | found => .error (failAt c.advance (.wantedMember found))

/-- The meaning of a name, with the cursor after it. -/
def named (nested : Parser) (name : String) : Parser := fun c =>
  if name = "true" then .ok (.literal (.truth true), c)
  else if name = "false" then .ok (.literal (.truth false), c)
  else if name = "location" then .ok (.symbol .location, c)
  else if name = "flags" then flagsMember nested c
  else
    match Stat.ofKey? name with
    | some stat => .ok (.symbol (.stat stat), c)
    | none => .error (.unknownSymbol name)

/-- Literals, names and parentheses. -/
def primary (nested : Parser) : Parser := fun c =>
  match c.peek? with
  | some (.number x) => .ok (.literal (.number x), c.advance)
  | some (.text s) => .ok (.literal (.text s), c.advance)
  | some .leftParen =>
      match nested c.advance with
      | .error e => .error e
      | .ok (inner, c) =>
          match take .rightParen c with
          | .error e => .error e
          | .ok c => .ok (inner, c)
  | some (.name name) => named nested name c.advance
  | found => .error (failAt c (.wantedValue found))

/-- Operators in front of an operand; a plus sign leaves nothing behind. -/
def unaryFrom (nested : Parser) (finish : Nat) : List Placed → Except Error (Expr × Cursor)
  | ⟨position, token⟩ :: rest =>
      match token with
      | .op .bang =>
          match unaryFrom nested finish rest with
          | .error e => .error e
          | .ok (operand, c) => .ok (.unary .not operand, c)
      | .op .minus =>
          match unaryFrom nested finish rest with
          | .error e => .error e
          | .ok (operand, c) => .ok (.unary .negate operand, c)
      | .op .plus => unaryFrom nested finish rest
      | token => primary nested ⟨⟨position, token⟩ :: rest, finish⟩
  | [] => primary nested ⟨[], finish⟩

/-- An operand with the operators in front of it. -/
def unary (nested : Parser) : Parser := fun c =>
  unaryFrom nested c.finish c.rest

/-- Products, quotients and remainders. -/
def multiplicative (nested : Parser) : Parser :=
  operandThen (unary nested) (byOperator multiplicativeOp? (unary nested))

/-- Sums and differences. -/
def additive (nested : Parser) : Parser :=
  operandThen (multiplicative nested) (byOperator additiveOp? (multiplicative nested))

/-- Extension by `in flags`.  A wrong token after `in` is reported where the token after it
starts. -/
def byMembership : Extension := fun left c =>
  match c.peek? with
  | some (.name "in") =>
      match c.advance.peek? with
      | some (.name "flags") => some (.ok (.hasFlag left, c.advance.advance))
      | found => some (.error (failAt c.advance.advance (.wantedFlags found)))
  | _ => none

/-- Comparisons and membership. -/
def comparison (nested : Parser) : Parser :=
  operandThen (additive nested) fun left c =>
    (byMembership left c).or (byOperator comparisonOp? (additive nested) left c)

/-- Equality tests. -/
def equality (nested : Parser) : Parser :=
  operandThen (comparison nested) (byOperator equalityOp? (comparison nested))

/-- Conjunctions. -/
def conjunction (nested : Parser) : Parser :=
  operandThen (equality nested) (byOperator andOp? (equality nested))

/-- Disjunctions, the loosest level. -/
def disjunction (nested : Parser) : Parser :=
  operandThen (conjunction nested) (byOperator orOp? (conjunction nested))

/-- Conditions with parentheses nested less deep than a bound. -/
def condition : Nat → Parser
  | 0 => fun c => .error (failAt c (.wantedValue c.peek?))
  | depth + 1 => disjunction (condition depth)

/-! ## Whole conditions -/

/-- The condition that all the tokens make up, for a text of a given length. -/
def ofTokens? (tokens : List Placed) (finish : Nat) : Except Error Expr :=
  match condition (tokens.length + 1) ⟨tokens, finish⟩ with
  | .error e => .error e
  | .ok (expr, c) =>
      match c.peek? with
      | none => .ok expr
      | some found => .error (failAt c (.leftOver found))

/-- The condition written in a text. -/
def Expr.parse (text : String) : Except Error Expr :=
  match tokens? text with
  | .error e => .error e
  | .ok tokens => ofTokens? tokens text.length

end Condition
end BranchingStory
