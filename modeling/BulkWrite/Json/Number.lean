import BulkWrite.Number.Layout

/-!
# Numbers of a document

A number is whole, if it is written without a point and without an exponent and fits a 64-bit word,
signed or not; any other number is a binary one. `Literal` is a number as it stands in a text, and
`Literal.value?` says which number it denotes.

A literal that is not whole is not rounded correctly in all cases. Its digits enter a 64-bit
significand as long as they fit; the other digits before the point count only as places, and those
behind it not at all. The significand, rounded, is then multiplied or divided by a rounded power of
ten. Each of the two steps rounds once.
-/

namespace BulkWrite.Json

/-- A number of a document. The single-precision ones are written only, never read. -/
inductive Number where
  | whole (n : Int)
  | double (x : Binary)
  | single (x : Binary)
deriving DecidableEq, Repr

namespace Number

def text : Number → List Char
  | .whole (.ofNat n) => Decimal.digitsOf n
  | .whole (.negSucc n) => '-' :: Decimal.digitsOf (n + 1)
  | .double (.finite s m e) => Layout.double.text (.finite s m e)
  | .single (.finite s m e) => Layout.single.text (.finite s m e)
  | .double _ | .single _ => "null".toList

end Number

/-! ## Literals -/

/-- A number as it is written: its sign, the digits on both sides of the point, and its exponent. -/
structure Literal where
  negative : Bool
  digits : List Nat
  /-- The digits behind the point, if there is one. -/
  places : Option (List Nat)
  exponent : Option Int
deriving DecidableEq, Repr

namespace Literal

/-- The bound of a 64-bit significand. -/
def significandBound : Nat := UInt64.size

/-- The greatest power of ten of the 64-bit format. -/
def greatestPower : Nat := 308

/-- The digits of a whole part: the significand that the leading ones form, and how many are left
over once one does not fit. -/
def absorb (significand : Nat) : List Nat → Nat × Nat
  | [] => (significand, 0)
  | d :: ds =>
    if significand * 10 + d < significandBound then absorb (significand * 10 + d) ds
    else (significand, ds.length + 1)

/-- `10 ^ n` in the 64-bit format. -/
def powerOfTen (n : Nat) : Nat × Int :=
  match Format.double.round false (Nat.pow 10 n) 1 with
  | .finite _ m e => (m, e)
  | _ => (0, 0)

/-- A finite number over `10 ^ n`, rounded. -/
def overPower (m : Nat) (e : Int) (n : Nat) : Binary :=
  let (p, q) := powerOfTen n
  Format.double.quotient false m e p q

/-- `significand · 10 ^ exponent` as two rounded steps; none if that is too large. An exponent below
the powers of the format takes two divisions, and one below twice those leaves zero. -/
def scale? (significand : Nat) (exponent : Int) : Option Binary :=
  if significand = 0 then some (Format.double.ofInt 0)
  else
    match Format.double.ofInt significand with
    | .finite _ m e =>
      if 0 ≤ exponent then
        if exponent ≤ greatestPower then
          let (p, q) := powerOfTen exponent.toNat
          match Format.double.product false m e p q with
          | .finite s m e => some (.finite s m e)
          | _ => none
        else none
      else
        let n := (-exponent).toNat
        if n ≤ greatestPower then some (overPower m e n)
        else if n ≤ 2 * greatestPower then
          match overPower m e greatestPower with
          | .finite _ m e => some (overPower m e (n - greatestPower))
          | x => some x
        else some (Format.double.ofInt 0)
    | _ => none

/-- The greatest exponent that a literal may write. -/
def exponentBound : Nat := 0x7FFFFFFF

/-- The binary number of a literal with the given significand, whose unit is
`10 ^ shift`. -/
def binary? (l : Literal) (significand : Nat) (shift : Int) : Option Number :=
  let exponent := l.exponent.getD 0
  let value :=
    if exponent.natAbs ≤ exponentBound then scale? significand (shift + exponent)
    else if significand ≠ 0 ∧ 0 < exponent then none
    else scale? 0 0
  value.map fun x => .double (x.withSign l.negative)

/-- The number that a literal denotes; none if it is too large for any. -/
def value? (l : Literal) : Option Number :=
  match absorb 0 l.digits, l.places with
  | (significand, 0), none =>
    match l.exponent with
    | some _ => l.binary? significand 0
    | none =>
      if !l.negative then some (.whole significand)
      else if significand = 0 ∨ significandBound / 2 < significand then l.binary? significand 0
      else some (.whole (-significand))
  | (significand, 0), some places =>
    let (significand, dropped) := absorb significand places
    l.binary? significand (dropped - places.length)
  | (significand, left), none => l.binary? significand left
  | (significand, left), some places =>
    let (significand, dropped) := absorb significand places
    l.binary? significand (left + dropped - places.length)

end Literal

end BulkWrite.Json
