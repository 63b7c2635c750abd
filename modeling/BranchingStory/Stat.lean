/-!
# Stats

The amounts that stats are measured in, the stats themselves, and the range of each stat.

Main results:

- `Amount.toInt_saturatingAdd`: a sum is the exact sum, moved to the nearer end when it leaves the
  range.
- `Stat.key_of_ofKey?`: only its own symbol names a stat.
- `Bounds.toInt_clamp`: clamping is the minimum of the upper end and the maximum with the lower end.
- `Bounds.contains_clamp`: with ends in order, a clamped value is inside.
-/

namespace BranchingStory

/-!
## Amounts

Stat values, adjustments, scores and priorities are whole numbers of 32 bits with a sign.  Adding an
adjustment to a value stops at the ends of that range instead of wrapping around.
-/

/-- A signed whole number of 32 bits. -/
abbrev Amount := Int32

namespace Amount

/-- The amount that equals an integer, if the integer is in range. -/
def ofInt? (n : Int) : Option Amount :=
  if Int32.minValue.toInt ≤ n ∧ n ≤ Int32.maxValue.toInt then some (Int32.ofInt n) else none

@[simp]
theorem ofInt?_toInt (a : Amount) : ofInt? a.toInt = some a := by
  have hrange : Int32.minValue.toInt ≤ a.toInt ∧ a.toInt ≤ Int32.maxValue.toInt :=
    ⟨a.minValue_le_toInt, a.toInt_le⟩
  rw [ofInt?, if_pos hrange, Int32.ofInt_toInt]

/-- Sum of two amounts; a sum outside the range becomes the nearer end of the range. -/
def saturatingAdd (a b : Amount) : Amount :=
  Int32.ofIntClamp (a.toInt + b.toInt)

/-- The sum is the exact sum, moved to the nearer end when it leaves the range. -/
theorem toInt_saturatingAdd (a b : Amount) :
    (saturatingAdd a b).toInt
      = min (max (a.toInt + b.toInt) Int32.minValue.toInt) Int32.maxValue.toInt := by
  have hends : Int32.minValue.toInt ≤ Int32.maxValue.toInt := by decide
  unfold saturatingAdd Int32.ofIntClamp
  split
  · split
    · rw [Int32.toInt_ofIntLE]
      omega
    · omega
  · omega

/-- The amount in decimal digits, with a minus sign in front when it is negative. -/
def text (a : Amount) : String :=
  toString a.toInt

end Amount

/-!
## The eight stats

The eight numbers that a playthrough tracks: five status variables and three skills, one skill for
each kind of terrain.  A stat has a symbol, which authored content uses, and a label for display.
`PerStat α` is a record with one `α` for each stat.
-/

/-- A number that a playthrough tracks. -/
inductive Stat where
  | safety
  | resources
  | mobility
  | socialCapital
  | highRisk
  | surgeAwareness
  | floodManagement
  | landslideAwareness
deriving DecidableEq, Repr

namespace Stat

/-- The stats in canonical order. -/
def all : List Stat :=
  [safety, resources, mobility, socialCapital, highRisk, surgeAwareness, floodManagement,
    landslideAwareness]

/-- The status variables. -/
def statusVariables : List Stat :=
  [safety, resources, mobility, socialCapital, highRisk]

/-- The skills. -/
def skills : List Stat :=
  [surgeAwareness, floodManagement, landslideAwareness]

@[simp]
theorem mem_all (stat : Stat) : stat ∈ all := by
  cases stat <;> decide

/-- Whether the stat is a skill. -/
def isSkill : Stat → Bool
  | surgeAwareness | floodManagement | landslideAwareness => true
  | _ => false

theorem isSkill_iff {stat : Stat} : stat.isSkill = true ↔ stat ∈ skills := by
  cases stat <;> decide

/-- The symbol of the stat in authored content. -/
def key : Stat → String
  | safety => "S"
  | resources => "R"
  | mobility => "M"
  | socialCapital => "SC"
  | highRisk => "HR"
  | surgeAwareness => "SA"
  | floodManagement => "FM"
  | landslideAwareness => "LA"

/-- The name of the stat for display. -/
def label : Stat → String
  | safety => "Safety"
  | resources => "Resources"
  | mobility => "Mobility"
  | socialCapital => "Social Capital"
  | highRisk => "High Risk"
  | surgeAwareness => "Surge Awareness"
  | floodManagement => "Flood Management"
  | landslideAwareness => "Landslide Awareness"

/-- The stat with a symbol; upper and lower case differ. -/
def ofKey? (symbol : String) : Option Stat :=
  all.find? fun stat => stat.key == symbol

/-- A symbol names its own stat. -/
@[simp]
theorem ofKey?_key (stat : Stat) : ofKey? stat.key = some stat := by
  cases stat <;> decide

/-- Only its own symbol names a stat. -/
theorem key_of_ofKey? {symbol : String} {stat : Stat} (h : ofKey? symbol = some stat) :
    stat.key = symbol := by
  have := List.find?_some h
  exact beq_iff_eq.mp this

/-- Different stats have different symbols. -/
theorem eq_of_key_eq {a b : Stat} (h : a.key = b.key) : a = b := by
  have := ofKey?_key a
  rw [h, ofKey?_key] at this
  exact (Option.some.inj this).symm

/-- The skill that counts at a location, if the location calls for one. -/
def ofLocation? (location : String) : Option Stat :=
  if location = "Coastal" then some surgeAwareness
  else if location = "River" then some floodManagement
  else if location = "Hill" then some landslideAwareness
  else none

end Stat

/-! ### One value for each stat -/

/-- One value for each stat. -/
structure PerStat (α : Type) where
  safety : α
  resources : α
  mobility : α
  socialCapital : α
  highRisk : α
  surgeAwareness : α
  floodManagement : α
  landslideAwareness : α
deriving DecidableEq, Repr

namespace PerStat

variable {α β : Type}

/-- The value of a stat. -/
def get (p : PerStat α) : Stat → α
  | .safety => p.safety
  | .resources => p.resources
  | .mobility => p.mobility
  | .socialCapital => p.socialCapital
  | .highRisk => p.highRisk
  | .surgeAwareness => p.surgeAwareness
  | .floodManagement => p.floodManagement
  | .landslideAwareness => p.landslideAwareness

/-- The record of the values of a function. -/
def ofFn (f : Stat → α) : PerStat α where
  safety := f .safety
  resources := f .resources
  mobility := f .mobility
  socialCapital := f .socialCapital
  highRisk := f .highRisk
  surgeAwareness := f .surgeAwareness
  floodManagement := f .floodManagement
  landslideAwareness := f .landslideAwareness

@[simp]
theorem get_ofFn (f : Stat → α) (stat : Stat) : (ofFn f).get stat = f stat := by
  cases stat <;> rfl

@[simp]
theorem ofFn_get (p : PerStat α) : ofFn p.get = p :=
  rfl

/-- Records that agree at every stat are equal. -/
theorem ext_get {p q : PerStat α} (h : ∀ stat, p.get stat = q.get stat) : p = q := by
  rw [← ofFn_get p, ← ofFn_get q, funext h]

/-- The same value for every stat. -/
def uniform (a : α) : PerStat α :=
  ofFn fun _ => a

/-- Every stat with its value, in canonical order. -/
def toList (p : PerStat α) : List (Stat × α) :=
  Stat.all.map fun stat => (stat, p.get stat)

/-- The values that a partial function gives, if it gives one for every stat. -/
def ofFn? (f : Stat → Option α) : Option (PerStat α) := do
  return {
    safety := ← f .safety
    resources := ← f .resources
    mobility := ← f .mobility
    socialCapital := ← f .socialCapital
    highRisk := ← f .highRisk
    surgeAwareness := ← f .surgeAwareness
    floodManagement := ← f .floodManagement
    landslideAwareness := ← f .landslideAwareness }

end PerStat

/-!
## Bounds

A stat has an authored inclusive range.  Clamping first lifts a value to the lower end and then cuts
it at the upper end, so with inverted ends the upper end wins.
-/

/-- The current value of every stat. -/
abbrev Stats := PerStat Amount

/-- An inclusive range. -/
structure Bounds where
  min : Amount
  max : Amount
deriving DecidableEq, Repr

namespace Bounds

/-- The value moved into the range. -/
def clamp (b : Bounds) (value : Amount) : Amount :=
  let raised := if value < b.min then b.min else value
  if b.max < raised then b.max else raised

/-- Whether the range has the value. -/
def contains (b : Bounds) (value : Amount) : Bool :=
  b.min ≤ value && value ≤ b.max

/-- Clamping is the minimum of the upper end and the maximum with the lower end. -/
theorem toInt_clamp (b : Bounds) (value : Amount) :
    (b.clamp value).toInt = Min.min (Max.max value.toInt b.min.toInt) b.max.toInt := by
  unfold clamp
  simp only [Int32.lt_iff_toInt_lt]
  split <;> split <;> omega

/-- A value is in the range if it lies between both ends. -/
theorem contains_iff {b : Bounds} {value : Amount} :
    b.contains value = true ↔ b.min.toInt ≤ value.toInt ∧ value.toInt ≤ b.max.toInt := by
  simp [contains, Int32.le_iff_toInt_le]

/-- With ends in order, a clamped value is inside. -/
theorem contains_clamp {b : Bounds} (h : b.min ≤ b.max) (value : Amount) :
    b.contains (b.clamp value) = true := by
  rw [contains_iff, toInt_clamp]
  rw [Int32.le_iff_toInt_le] at h
  omega

end Bounds
end BranchingStory
