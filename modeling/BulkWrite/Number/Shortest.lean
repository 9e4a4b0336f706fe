import BulkWrite.Number.Binary

/-!
# The shortest decimal of a binary number

Every binary number is nearest to all reals of an interval around it. `Binary.shortest` gives the
decimal with the fewest digits inside that interval; of several with equally few digits the one
nearest to the number, and of two equally near the one whose last digit is even.
-/

namespace BulkWrite

structure Decimal where
  digits : Nat
  exponent : Int
deriving DecidableEq, Repr

namespace Decimal

/-- The decimal digits of a number, most significant first. -/
def digitsOf (n : Nat) : List Char :=
  Nat.toDigits 10 n

/-- The same decimal without zeros at the end of its digits, at most `fuel` of them. -/
def strip : Nat → Decimal → Decimal
  | 0, d => d
  | fuel + 1, d =>
    if d.digits ≠ 0 ∧ d.digits % 10 = 0 then strip fuel ⟨d.digits / 10, d.exponent + 1⟩ else d

/-- The exponent of the leading digit of `num / den`, for positive `num` and `den`. -/
def leadingExponent (num den : Nat) : Int :=
  if den ≤ num then (digitsOf (num / den)).length - 1
  else -((digitsOf ((den + num - 1) / num - 1)).length : Int)

/-- An interval of positive reals in units of `1 / den`, with a point `value` inside it. -/
structure Interval where
  lower : Nat
  value : Nat
  upper : Nat
  den : Nat
  /-- Whether the ends belong to the interval. -/
  closed : Bool

namespace Interval

/-- Whether `n · 10 ^ exponent` lies in the interval. -/
def contains (i : Interval) (n : Nat) (exponent : Int) : Bool :=
  let point := n * Nat.pow 10 exponent.toNat * i.den
  let unit := Nat.pow 10 (-exponent).toNat
  if i.closed then i.lower * unit ≤ point && point ≤ i.upper * unit
  else i.lower * unit < point && point < i.upper * unit

/-- The point of the grid `10 ^ exponent` that lies in the interval and is nearest to its value,
one of the value's two neighbours on the grid; on a tie the even one. -/
def onGrid? (i : Interval) (exponent : Int) : Option Nat :=
  let num := i.value * Nat.pow 10 (-exponent).toNat
  let den := i.den * Nat.pow 10 exponent.toNat
  let below := num / den
  let rest := num % den
  let near := Format.nearestEven below rest den
  let far := if near = below then below + 1 else below
  if i.contains near exponent then some near
  else if i.contains far exponent then some far
  else none

/-- The coarsest grid, from the one of the leading digit on, that has a point in the interval. -/
def coarsest (i : Interval) : Nat → Int → Decimal
  | 0, exponent => ⟨(i.onGrid? exponent).getD 0, exponent⟩
  | fuel + 1, exponent =>
    match i.onGrid? exponent with
    | some n => ⟨n, exponent⟩
    | none => i.coarsest fuel (exponent - 1)

end Interval

end Decimal

namespace Format

/-- The reals that round to `significand · 2 ^ exponent`. They reach half a unit to both sides, but
only a quarter of it below a power of two. -/
def interval (f : Format) (significand : Nat) (exponent : Int) : Decimal.Interval :=
  let up := (exponent - 2).toNat
  let gap := if significand = Nat.pow 2 (f.precision - 1) ∧ f.minExponent < exponent then 1 else 2
  { lower := (4 * significand - gap) <<< up
    value := (4 * significand) <<< up
    upper := (4 * significand + 2) <<< up
    den := 1 <<< (2 - exponent).toNat
    closed := significand % 2 == 0 }

/-- The shortest decimal that rounds to `significand · 2 ^ exponent`. -/
def shortest (f : Format) (significand : Nat) (exponent : Int) : Decimal :=
  if significand = 0 then ⟨0, 0⟩
  else
    let i := f.interval significand exponent
    let d := i.coarsest 17 (Decimal.leadingExponent i.value i.den)
    d.strip 18

end Format

end BulkWrite
