import BranchingStory.Ron.Value

/-!
# Settings

Where games start, how many routers the story may pass at once, and the seed of the random stream.
Settings are written as one record; a field that is missing has its default, fields that are not
known are dropped, and a field given twice is an error.
-/

namespace BranchingStory

/-- The settings of a game. -/
structure Settings where
  startNode : String := "DAY0_LOCATION"
  /-- How many routers the story may pass in one go. -/
  maxHops : Nat := 256
  /-- Without a seed the random stream differs from run to run. -/
  seed : Option UInt64 := none
deriving DecidableEq, Repr

namespace Settings

/-- The name that the record may carry. -/
def recordName : String := "EngineConfig"

/-- The fields read so far. -/
structure Partial where
  startNode : Option String := none
  maxHops : Option Nat := none
  seed : Option (Option UInt64) := none

/-- The settings with defaults for missing fields. -/
def Partial.complete (p : Partial) : Settings :=
  let standard : Settings := {}
  { startNode := p.startNode.getD standard.startNode
    maxHops := p.maxHops.getD standard.maxHops
    seed := p.seed.getD standard.seed }

open Ron

/-- A seed, or its absence. -/
def readSeed (implicitSome : Bool) (chars : List Char) : Option (Option UInt64 × List Char) := do
  let plain (chars : List Char) : Option (Option UInt64 × List Char) := do
    let (n, rest) ← word64? chars
    return (some (UInt64.ofNat n), rest)
  match take? "None" chars with
  | some rest => return (none, rest)
  | none =>
      match take? "Some" chars with
      | some rest =>
          match ← skip rest with
          | '(' :: inner =>
              let (seed, rest) ← plain (← skip inner)
              let (_, rest) ← skipComma rest
              return (seed, ← take? ")" rest)
          | rest => if implicitSome then plain rest else none
      | none => if implicitSome then plain chars else none

/-- The value of a named field, added to the fields so far. -/
def readField (implicitSome : Bool) (name : String) (p : Partial) (chars : List Char) :
    Option (Partial × List Char) := do
  if name = "start_node" then
    let (node, rest) ← text? chars
    if p.startNode.isSome then none else return ({ p with startNode := some node }, rest)
  else if name = "max_auto_advance" then
    let (hops, rest) ← word64? chars
    if p.maxHops.isSome then none else return ({ p with maxHops := some hops }, rest)
  else if name = "seed" then
    let (seed, rest) ← readSeed implicitSome chars
    if p.seed.isSome then none else return ({ p with seed := some seed }, rest)
  else
    return (p, ← skipValue implicitSome (2 * chars.length + 2) chars)

/-- Fields up to the closing parenthesis.  Before each but the first there is a comma. -/
def readFields (implicitSome : Bool) : Nat → Bool → Partial → List Char →
    Option (Partial × List Char)
  | 0, _, _, _ => none
  | fuel + 1, comma, p, chars => do
      match ← skip chars with
      | ')' :: rest => return (p, rest)
      | rest =>
          if !comma then none
          else
            let (name, rest) ← identifier? rest
            let rest ← skip (← take? ":" (← skip rest))
            let (p, rest) ← readField implicitSome name p rest
            let (comma, rest) ← skipComma rest
            readFields implicitSome fuel comma p rest

/-- The characters after the name of the record, if it carries one. -/
def skipName (chars : List Char) : Option (List Char) := do
  if startsInName chars then
    let (name, rest) ← identifier? chars
    if name = recordName then return rest else none
  else return chars

/-- The settings written in a text. -/
def read? (text : String) : Option Settings := do
  let chars := text.toList
  let (enabled, rest) ← extensions (chars.length + 1) [] chars
  let rest ← skip (← skipName rest)
  let rest ← take? "(" rest
  let (p, rest) ← readFields (enabled.contains "implicit_some") (rest.length + 1) true {} rest
  if (← skip rest).isEmpty then return p.complete else none

end Settings
end BranchingStory
