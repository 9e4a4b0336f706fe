import BulkWrite.Number.Shortest

/-!
# Written forms of binary numbers

A `Layout` says which decimal exponents are written out in place; all others are written with a mark
and a signed exponent. A form in place always has a point, and a scientific one has it when there is
more than one digit.
-/

namespace BulkWrite

/-- The format of the numbers and the range of exponents that are written in place. -/
structure Layout where
  format : Format
  /-- The least and greatest exponent of a leading digit in place; without bounds, every one. -/
  inPlace : Option (Int × Int)

namespace Layout

def double : Layout := ⟨.double, some (-5, 15)⟩

def single : Layout := ⟨.single, some (-6, 12)⟩

/-- A number of the 64-bit format with all its places. -/
def positional : Layout := ⟨.double, none⟩

/-- Digits with the point after the leading one shifted by `exponent` places. -/
def written (digits : List Char) (exponent : Int) : List Char :=
  if exponent < 0 then
    '0' :: '.' :: List.replicate (-exponent - 1).toNat '0' ++ digits
  else
    let width := exponent.toNat + 1
    let whole := digits.take width ++ List.replicate (width - digits.length) '0'
    let places := digits.drop width
    whole ++ '.' :: (if places.isEmpty then ['0'] else places)

/-- Digits with a point after the leading one, and the exponent with its sign. -/
def scientific (digits : List Char) (exponent : Int) : List Char :=
  let significand :=
    match digits with
    | [] => []
    | [d] => [d]
    | d :: places => d :: '.' :: places
  let sign := if exponent < 0 then '-' else '+'
  significand ++ 'e' :: sign :: Decimal.digitsOf exponent.natAbs

def decimal (l : Layout) (d : Decimal) : List Char :=
  let digits := Decimal.digitsOf d.digits
  let exponent := if d.digits = 0 then 0 else d.exponent + digits.length - 1
  match l.inPlace with
  | none => written digits exponent
  | some (least, greatest) =>
    if least ≤ exponent ∧ exponent ≤ greatest then written digits exponent
    else scientific digits exponent

def text (l : Layout) : Binary → List Char
  | .finite negative significand exponent =>
    (if negative then ['-'] else []) ++ l.decimal (l.format.shortest significand exponent)
  | .infinite negative => (if negative then ['-'] else []) ++ "inf.0".toList
  | .notANumber => "NaN.0".toList

end Layout

end BulkWrite
