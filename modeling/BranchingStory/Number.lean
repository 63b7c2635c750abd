/-!
# Floating-point numbers

The binary form of a floating-point number, the decimal digits that stand for it, and its text.  All
of it is exact arithmetic on natural numbers and integers.
-/

namespace BranchingStory

/-! ## Powers -/

/-- A power of two. -/
def twoTo (n : Nat) : Nat :=
  Nat.pow 2 n

/-- A power of ten. -/
def tenTo (n : Nat) : Nat :=
  Nat.pow 10 n

/-!
## Binary form of floating-point numbers

A finite floating-point number is a sign, a mantissa `m` and an exponent `q` with value `m · 2^q`.
This module reads that form from the bits, writes it back, and computes the exact remainder of a
division with it.
-/

/-- The value `± mantissa · 2^exponent`. -/
structure Binary where
  negative : Bool
  mantissa : Nat
  exponent : Int
deriving DecidableEq, Repr

namespace Binary

/-- What kind of value a floating-point number holds. -/
inductive Kind where
  | nan
  | infinite (negative : Bool)
  | finite (value : Binary)
deriving DecidableEq, Repr

/-- Take a floating-point number apart. -/
def ofFloat (x : Float) : Kind :=
  let bits := x.toBits.toNat
  let negative := bits / twoTo 63 % 2 == 1
  let biased : Nat := bits / twoTo 52 % twoTo 11
  let fraction := bits % twoTo 52
  if biased == 2047 then
    if fraction == 0 then .infinite negative else .nan
  else if biased == 0 then
    .finite ⟨negative, fraction, -1074⟩
  else
    .finite ⟨negative, twoTo 52 + fraction, (biased : Int) - 1075⟩

/-- The floating-point number with this value.  The mantissa must be below `2^53` and the exponent
at least `-1074`, so that the value is representable; results of this library always are. -/
def toFloat (b : Binary) : Float :=
  let sign := if b.negative then twoTo 63 else 0
  if b.mantissa == 0 then
    Float.ofBits (UInt64.ofNat sign)
  else
    let room := (b.exponent + 1074).toNat
    let shift := min (52 - b.mantissa.log2) room
    let mantissa := b.mantissa * twoTo shift
    let exponent := b.exponent - shift
    if mantissa < twoTo 52 then
      Float.ofBits (UInt64.ofNat (sign + mantissa))
    else
      let biased := (exponent + 1075).toNat
      Float.ofBits (UInt64.ofNat (sign + biased * twoTo 52 + (mantissa - twoTo 52)))

end Binary

/-- Remainder of a division whose quotient is rounded toward zero; it is exact and has the sign of
the dividend. -/
def remainder (x y : Float) : Float :=
  match Binary.ofFloat x, Binary.ofFloat y with
  | .finite a, .finite b =>
      if b.mantissa == 0 then 0 / 0
      else
        let low := min a.exponent b.exponent
        let dividend := a.mantissa * twoTo (a.exponent - low).toNat
        let divisor := b.mantissa * twoTo (b.exponent - low).toNat
        Binary.toFloat ⟨a.negative, dividend % divisor, low⟩
  | .finite _, .infinite _ => x
  | _, _ => 0 / 0

/-!
## Decimal digits of floating-point numbers

Two selections of digits, both in exact arithmetic on naturals: the fewest digits that read back as
the same number, and a fixed number of decimal places.

The shortest form is found on grids of growing precision.  The reals that round to `m · 2^q` form an
interval, whose ends belong to it exactly if `m` is even.  On the grid with `n` digits only the two
neighbours of the value can be nearest to it; the first grid that has a neighbour inside the
interval wins.
-/

/-- The value `digits · 10^exponent`. -/
structure Digits where
  digits : Nat
  exponent : Int
deriving DecidableEq, Repr

/-- Which of two equally close candidates is taken. -/
inductive Tie where
  | up
  | even
deriving DecidableEq, Repr

namespace Digits

/-- Move trailing zeros of the digits into the exponent; at most `fuel` of them. -/
def strip : Nat → Digits → Digits
  | 0, d => d
  | fuel + 1, d =>
      if d.digits % 10 == 0 && d.digits != 0 then strip fuel ⟨d.digits / 10, d.exponent + 1⟩ else d

/-- Compare `a · 10^k` with `b · 2^q`. -/
def compareScaled (a : Nat) (k : Int) (b : Nat) (q : Int) : Ordering :=
  compare (a * tenTo k.toNat * twoTo (-q).toNat) (b * twoTo q.toNat * tenTo (-k).toNat)

/-- Whether `a · 10^k` rounds to the number `m · 2^q`.  In units of `2^(q-2)` the interval reaches
from `4m - 2` to `4m + 2`, or from `4m - 1` where the numbers below lie twice as close. -/
def readsBack (m : Nat) (q : Int) (a : Nat) (k : Int) : Bool :=
  let closed := m % 2 == 0
  let low := if m == twoTo 52 && q > -1074 then 4 * m - 1 else 4 * m - 2
  let aboveLow := match compareScaled a k low (q - 2) with
    | .gt => true
    | .eq => closed
    | .lt => false
  let belowHigh := match compareScaled a k (4 * m + 2) (q - 2) with
    | .lt => true
    | .eq => closed
    | .gt => false
  aboveLow && belowHigh

/-- The floor of `m · 2^q / 10^k`. -/
def floorOnGrid (m : Nat) (q k : Int) : Nat :=
  m * twoTo q.toNat * tenTo (-k).toNat / (tenTo k.toNat * twoTo (-q).toNat)

/-- The least `s` from a start with `m · 2^q < 10^s`, looking at most `fuel` steps up. -/
def scaleFrom (m : Nat) (q : Int) : Nat → Int → Int
  | 0, s => s
  | fuel + 1, s => if compareScaled 1 s m q == .gt then s else scaleFrom m q fuel (s + 1)

/-- The least `s` with `m · 2^q < 10^s`, for a positive `m`. -/
def scale (m : Nat) (q : Int) : Int :=
  -- 30103 / 100000 is a little above the decimal logarithm of two
  let estimate := ((m.log2 : Int) + q) * 30103 / 100000 - 1
  scaleFrom m q 4 estimate

/-- The neighbours of the value on the grid with `n` digits that read back, the nearer first
choice. -/
def onGrid? (tie : Tie) (m : Nat) (q s : Int) (n : Nat) : Option Digits :=
  let k := s - n
  let below := floorOnGrid m q k
  let above := below + 1
  match readsBack m q below k, readsBack m q above k with
  | true, true =>
      -- the value against the middle of both neighbours
      match compareScaled (2 * below + 1) k (2 * m) q with
      | .lt => some ⟨above, k⟩
      | .gt => some ⟨below, k⟩
      | .eq => match tie with
        | .up => some ⟨above, k⟩
        | .even => some ⟨if below % 2 == 0 then below else above, k⟩
  | true, false => some ⟨below, k⟩
  | false, true => some ⟨above, k⟩
  | false, false => none

/-- The fewest digits that read back as the positive number `m · 2^q`. -/
def shortest (tie : Tie) (m : Nat) (q : Int) : Digits :=
  let s := scale m q
  let found := (List.range 17).findSome? fun n => onGrid? tie m q s (n + 1)
  strip 400 (found.getD ⟨floorOnGrid m q (min q 0), min q 0⟩)

/-- A quotient rounded to the nearest natural number, a half going to the even neighbour. -/
def roundHalfEven (num den : Nat) : Nat :=
  let quotient := num / den
  let twice := 2 * (num % den)
  if twice > den || (twice == den && quotient % 2 == 1) then quotient + 1 else quotient

/-- The number `m · 2^q` in units of `10^(-places)`, rounded half to even. -/
def inPlaces (places : Nat) (m : Nat) (q : Int) : Nat :=
  roundHalfEven (m * twoTo q.toNat * tenTo places) (twoTo (-q).toNat)

end Digits

/-!
## Texts of floating-point numbers

The usual text of a number has the fewest digits that read back and never an exponent: a whole
number has no point, a fraction has digits on both sides of the point.  Draws in messages have a
fixed number of decimal places instead.
-/

namespace Digits

/-- `n` zeros. -/
def zeros (n : Nat) : String :=
  String.ofList (List.replicate n '0')

/-- The digits with a point where the exponent puts it, and zeros where digits are missing. -/
def positional (d : Digits) : String :=
  let text := toString d.digits
  if d.exponent ≥ 0 then
    text ++ zeros d.exponent.toNat
  else
    let places := (-d.exponent).toNat
    if text.length ≤ places then
      "0." ++ zeros (places - text.length) ++ text
    else
      let chars := text.toList
      String.ofList (chars.take (text.length - places)) ++ "."
        ++ String.ofList (chars.drop (text.length - places))

end Digits

/-- The text of a number: the fewest digits that read back, written without an exponent. -/
def numberText (x : Float) : String :=
  match Binary.ofFloat x with
  | .nan => "NaN"
  | .infinite negative => if negative then "-inf" else "inf"
  | .finite b =>
      let sign := if b.negative then "-" else ""
      if b.mantissa == 0 then sign ++ "0"
      else sign ++ (Digits.shortest .up b.mantissa b.exponent).positional

/-- The text of a number with a fixed, positive number of decimal places. -/
def fixedText (places : Nat) (x : Float) : String :=
  match Binary.ofFloat x with
  | .nan => "NaN"
  | .infinite negative => if negative then "-inf" else "inf"
  | .finite b =>
      let units := toString (Digits.inPlaces places b.mantissa b.exponent)
      let padded := Digits.zeros (places + 1 - units.length) ++ units
      let chars := padded.toList
      (if b.negative then "-" else "")
        ++ String.ofList (chars.take (chars.length - places)) ++ "."
        ++ String.ofList (chars.drop (chars.length - places))

end BranchingStory
