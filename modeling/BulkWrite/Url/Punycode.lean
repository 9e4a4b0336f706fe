/-!
# Punycode

A label of a domain name that holds characters beyond ASCII is written with ASCII alone: first its
ASCII characters, then, behind a hyphen, where the others are to be inserted. These are taken
ascending by code point. An insertion is a single number, the steps through all places of all code
points since the insertion before it; it is written with digits of base 36, the least one first. A
digit below the threshold of its place ends a number, and the thresholds follow the numbers so far.
-/

namespace BulkWrite.Punycode

/-! ## Digits and thresholds -/

def digit (n : Nat) : Char :=
  if n < 26 then Char.ofNat ('a'.toNat + n) else Char.ofNat ('0'.toNat + (n - 26))

def digitValue? (c : Char) : Option Nat :=
  if c.isLower then some (c.toNat - 'a'.toNat)
  else if c.isUpper then some (c.toNat - 'A'.toNat)
  else if c.isDigit then some (c.toNat - '0'.toNat + 26)
  else none

/-- The threshold of the place with weight `36 * k`, for the given bias. -/
def threshold (k bias : Nat) : Nat :=
  min 26 (max 1 (36 * k - bias))

/-- A threshold is positive, so a number gets smaller from digit to digit. -/
theorem threshold_pos (k bias : Nat) : 0 < threshold k bias := by
  unfold threshold
  omega

/-- Takes a number into the range of the bias, counting the divisions. -/
def reduce (n k : Nat) : Nat :=
  if 455 < n then reduce (n / 35) (k + 36) else k + 36 * n / (n + 38)
termination_by n
decreasing_by omega

/-- The bias behind an insertion that took `delta` steps and made `count` characters. -/
def adapt (delta count : Nat) (isFirst : Bool) : Nat :=
  let n := if isFirst then delta / 700 else delta / 2
  reduce (n + n / count) 0

def initialBias : Nat := 72

def firstPoint : Nat := 128

/-! ## Encoding -/

/-- The digits of a number from place `k` on. -/
def digits (bias k n : Nat) : List Char :=
  let t := threshold k bias
  if n < t then [digit n]
  else digit (t + (n - t) % (36 - t)) :: digits bias (k + 1) ((n - t) / (36 - t))
termination_by n
decreasing_by
  have := threshold_pos k bias
  exact Nat.lt_of_le_of_lt (Nat.div_le_self ..) (by omega)

/-- What is kept between insertions: the characters so far, the steps since the last one, the bias,
and whether none was made yet. -/
structure Progress where
  count : Nat
  delta : Nat := 0
  bias : Nat := initialBias
  isFirst : Bool := true

/-- One pass over the label that inserts the code point `point`. -/
def insertPoint (point : Nat) : Progress → List Char → Progress × List Char
  | p, [] => (p, [])
  | p, c :: cs =>
    if c.toNat < point then insertPoint point { p with delta := p.delta + 1 } cs
    else if c.toNat = point then
      let (q, rest) := insertPoint point
        ⟨p.count + 1, 0, adapt p.delta (p.count + 1) p.isFirst, false⟩ cs
      (q, digits p.bias 1 p.delta ++ rest)
    else insertPoint point p cs

/-- The passes for ascending code points, of which `next` is the first that may come. -/
def insertPoints (label : List Char) : (next : Nat) → Progress → List Nat → List Char
  | _, _, [] => []
  | next, p, point :: points =>
    let start := { p with delta := p.delta + (point - next) * (p.count + 1) }
    let (q, text) := insertPoint point start label
    text ++ insertPoints label (point + 1) { q with delta := q.delta + 1 } points

/-- A label written with ASCII alone. -/
def encode (label : List Char) : List Char :=
  let ascii := label.filter fun c => c.toNat < firstPoint
  let points := ((label.map Char.toNat).filter (firstPoint ≤ ·)).eraseDups.mergeSort
  ascii ++ (if ascii.isEmpty then [] else ['-'])
    ++ insertPoints label firstPoint { count := ascii.length } points

/-! ## Decoding -/

/-- Inserts at place `at` of all places a code point may take, from `next` on. -/
def place? (label : List Char) (next steps : Nat) : Option (List Char × Nat × Nat) :=
  let point := next + steps / (label.length + 1)
  let index := steps % (label.length + 1)
  if point < 0xD800 ∨ (0xDFFF < point ∧ point ≤ 0x10FFFF) then
    some (label.insertIdx index (Char.ofNat point), point, index + 1)
  else none

/-- Reads the digits of insertions: `n` is the number so far, in which place `k` has the weight
`weight`; `steps` is where the last insertion ended. -/
def decodeDigits (label : List Char) (next steps bias : Nat) (isFirst : Bool) :
    (k weight n : Nat) → List Char → Option (List Char)
  | k, _, _, [] => if k = 1 then some label else none
  | k, weight, n, c :: cs =>
    match digitValue? c with
    | none => none
    | some d =>
      let t := threshold k bias
      let n := n + d * weight
      if d < t then
        match place? label next (steps + n) with
        | none => none
        | some (label, next, steps) =>
          decodeDigits label next steps (adapt n label.length isFirst) false 1 1 0 cs
      else decodeDigits label next steps bias isFirst (k + 1) (weight * (36 - t)) n cs

def decode? (text : List Char) : Option (List Char) :=
  let behind := (text.reverse.takeWhile (· != '-')).reverse
  let ascii := text.take (text.length - behind.length - 1)
  if ascii.all fun c => c.toNat < firstPoint then
    decodeDigits ascii firstPoint 0 initialBias true 1 1 0 behind
  else none

end BulkWrite.Punycode
