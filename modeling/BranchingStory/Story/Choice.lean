import BranchingStory.Playthrough.Basic
import BranchingStory.Sorted.Table

/-!
# Choices

A choice is what a player can select at a decision: gates that say when it is open, the effects of
taking it, and where it leads.  Its effects begin with an adjustment of stats.

Main results:

- `Adjustment.get_applyTo`: the value of each stat after an adjustment.
-/

namespace BranchingStory

/-!
## Adjustments

An adjustment names amounts by stat symbols.  Applying it adds each amount to its stat and moves the
sum into the bounds of that stat.  Symbols that name no stat are kept, but have no effect.
-/

/-- Signed amounts for symbols. -/
structure Adjustment where
  amounts : Table Amount
deriving DecidableEq, Repr

namespace Adjustment

/-- The adjustment that names nothing. -/
def none : Adjustment where
  amounts := ∅

instance : Inhabited Adjustment := ⟨none⟩

/-- Whether the adjustment names nothing. -/
def isEmpty (a : Adjustment) : Bool :=
  a.amounts.isEmpty

/-- The amount for a stat, if the adjustment names it. -/
def amount? (a : Adjustment) (stat : Stat) : Option Amount :=
  a.amounts.get? stat.key

/-- The part of the adjustment that names one of the given stats. -/
def restrictedTo (a : Adjustment) (stats : List Stat) : Adjustment where
  amounts := a.amounts.filterKeys fun key =>
    match Stat.ofKey? key with
    | some stat => stats.contains stat
    | .none => false

/-- The symbols that name no stat, in increasing order. -/
def unknownKeys (a : Adjustment) : List String :=
  a.amounts.keys.filter fun key => (Stat.ofKey? key).isNone

/-- Restriction keeps exactly the amounts of the given stats. -/
theorem amount?_restrictedTo (a : Adjustment) (stats : List Stat) (stat : Stat) :
    (a.restrictedTo stats).amount? stat = if stat ∈ stats then a.amount? stat else Option.none := by
  simp [amount?, restrictedTo, Table.get?_filterKeys]

/-- The stats after the adjustment. -/
def applyTo (a : Adjustment) (bounds : PerStat Bounds) (stats : Stats) : Stats :=
  .ofFn fun stat =>
    match a.amount? stat with
    | some amount => (bounds.get stat).clamp (Amount.saturatingAdd (stats.get stat) amount)
    | .none => stats.get stat

/-- A stat that is named has the clamped sum, and any other stat keeps its value. -/
theorem get_applyTo (a : Adjustment) (bounds : PerStat Bounds) (stats : Stats) (stat : Stat) :
    (a.applyTo bounds stats).get stat =
      match a.amount? stat with
      | some amount => (bounds.get stat).clamp (Amount.saturatingAdd (stats.get stat) amount)
      | .none => stats.get stat :=
  PerStat.get_ofFn _ stat

end Adjustment

/-- The playthrough after an adjustment. -/
def Playthrough.adjust (s : Playthrough) (bounds : PerStat Bounds) (a : Adjustment) :
    Playthrough :=
  { s with stats := a.applyTo bounds s.stats }

/-!
## Gates and effects

A choice can have effects of its own for some personas.
-/

/-- One flag, or a list of flags, as authored. -/
inductive FlagList where
  | one (flag : String)
  | many (flags : List String)
deriving DecidableEq, Repr

/-- The flags of the list. -/
def FlagList.toList : FlagList → List String
  | one flag => [flag]
  | many flags => flags

/-- An inclusive range whose ends may be open. -/
structure Gate where
  min : Option Amount
  max : Option Amount
deriving DecidableEq, Repr

/-- Whether the gate lets a value pass. -/
def Gate.admits (gate : Gate) (value : Amount) : Bool :=
  gate.min.all (· ≤ value) && gate.max.all (value ≤ ·)

/-- A random effect with its weight; an effect without a condition is always eligible. -/
structure ChanceEntry where
  condition : Option String
  chance : Float
  effect : Adjustment

/-- Effects that replace or extend those of a choice for one persona. -/
structure PersonaEffects where
  /-- Applied after the adjustment of the choice. -/
  adjustment : Option Adjustment
  /-- Taken instead of the table of the choice, even if it is empty. -/
  chances : Option (List ChanceEntry)

/-- What a player can select at a decision. -/
structure Choice where
  id : String
  label : String
  requiredFlag : Option String
  gates : Table Gate
  adjustment : Adjustment
  flagList : Option FlagList
  chances : List ChanceEntry
  personaEffects : Table PersonaEffects
  next : String

namespace Choice

/-- Whether the gate for a symbol lets a playthrough pass; a symbol that names no stat does not
stop anybody. -/
def passes (s : Playthrough) (symbol : String) (gate : Gate) : Bool :=
  match Stat.ofKey? symbol with
  | some stat => gate.admits (s.value stat)
  | none => true

/-- Whether the flag and the gates of the choice let a playthrough pass. -/
def isOpenTo (choice : Choice) (s : Playthrough) : Bool :=
  choice.requiredFlag.all s.hasFlag
    && choice.gates.toList.all fun (symbol, gate) => passes s symbol gate

/-- The flags that the choice sets. -/
def flags (choice : Choice) : List String :=
  match choice.flagList with
  | some list => list.toList
  | none => []

/-- The effects of the choice that are special to a persona. -/
def effectsFor? (choice : Choice) (persona : String) : Option PersonaEffects :=
  choice.personaEffects.get? persona

/-- The chance table in force for a persona. -/
def chancesFor (choice : Choice) (persona : String) : List ChanceEntry :=
  ((choice.effectsFor? persona).bind PersonaEffects.chances).getD choice.chances

end Choice
end BranchingStory
