/-!
# Binary floating-point numbers

A finite number is `± significand · 2 ^ exponent`, kept as these three parts; no hardware number
occurs. A `Format` says how many bits a significand has and how far exponents reach, and
`Format.round` takes an exact quotient to the nearest number of the format, a tie going to the even
significand.
-/

namespace BulkWrite

/-- A binary number, or what is left when there is none of that size. -/
inductive Binary where
  | finite (negative : Bool) (significand : Nat) (exponent : Int)
  | infinite (negative : Bool)
  | notANumber
deriving DecidableEq, Repr, Inhabited

/-- The extent of a binary format: a significand is below `2 ^ precision`, and an exponent lies
between the two bounds. -/
structure Format where
  precision : Nat
  minExponent : Int
  maxExponent : Int
deriving DecidableEq, Repr

namespace Format

def double : Format := ⟨53, -1074, 971⟩

def single : Format := ⟨24, -149, 104⟩

/-- `num / den` as a multiple of `2 ^ exponent`: the whole part, and the remainder over a
denominator. -/
def scaled (num den : Nat) (exponent : Int) : Nat × Nat × Nat :=
  let num' := num <<< (-exponent).toNat
  let den' := den <<< exponent.toNat
  (num' / den', num' % den', den')

/-- The multiple of a unit next to a quotient `whole + rest / den`; a tie goes to the even one. -/
def nearestEven (whole rest den : Nat) : Nat :=
  if 2 * rest < den then whole
  else if den < 2 * rest then whole + 1
  else whole + whole % 2

/-- The exponent at which the whole part of `num / den` fills the significand, or the least one of
the format. -/
def exponentFor (f : Format) (num den : Nat) : Int :=
  let guess : Int := (num.log2 : Int) - den.log2 - f.precision
  let whole := (scaled num den guess).1
  max f.minExponent (if whole < Nat.pow 2 f.precision then guess else guess + 1)

/-- The number of the format nearest to `± num / den`, for a positive `den`. -/
def round (f : Format) (negative : Bool) (num den : Nat) : Binary :=
  if num = 0 then .finite negative 0 f.minExponent
  else
    let exponent := f.exponentFor num den
    let (whole, rest, unit) := scaled num den exponent
    let significand := nearestEven whole rest unit
    let (significand, exponent) :=
      if significand < Nat.pow 2 f.precision then (significand, exponent)
      else (significand / 2, exponent + 1)
    if f.maxExponent < exponent then .infinite negative
    else .finite negative significand exponent

/-- The number of the format nearest to a whole number. -/
def ofInt (f : Format) (n : Int) : Binary :=
  f.round (n < 0) n.natAbs 1

/-- The number of the format nearest to a number of another format. -/
def ofBinary (f : Format) : Binary → Binary
  | .finite negative m e => f.round negative (m <<< e.toNat) (1 <<< (-e).toNat)
  | .infinite negative => .infinite negative
  | .notANumber => .notANumber

def quotient (f : Format) (negative : Bool) (m₁ : Nat) (e₁ : Int) (m₂ : Nat) (e₂ : Int) : Binary :=
  let e := e₁ - e₂
  f.round negative (m₁ <<< e.toNat) (m₂ <<< (-e).toNat)

def product (f : Format) (negative : Bool) (m₁ : Nat) (e₁ : Int) (m₂ : Nat) (e₂ : Int) : Binary :=
  let e := e₁ + e₂
  f.round negative ((m₁ * m₂) <<< e.toNat) (1 <<< (-e).toNat)

end Format

namespace Binary

def isNegative : Binary → Bool
  | .finite negative _ _ => negative
  | .infinite negative => negative
  | .notANumber => false

def withSign (negative : Bool) : Binary → Binary
  | .finite _ m e => .finite negative m e
  | .infinite _ => .infinite negative
  | .notANumber => .notANumber

end Binary

end BulkWrite
