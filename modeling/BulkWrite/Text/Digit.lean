/-!
# Digits

Digits of the bases up to 16, in either letter case, and the numbers that they form.
-/

namespace BulkWrite.Text

/-- The value of a digit in base 16. -/
def digitValue? (c : Char) : Option Nat :=
  if '0' ≤ c ∧ c ≤ '9' then some (c.toNat - '0'.toNat)
  else if 'a' ≤ c ∧ c ≤ 'f' then some (c.toNat - 'a'.toNat + 10)
  else if 'A' ≤ c ∧ c ≤ 'F' then some (c.toNat - 'A'.toNat + 10)
  else none

def appendDigit? (base n : Nat) (c : Char) : Option Nat :=
  match digitValue? c with
  | some d => if d < base then some (n * base + d) else none
  | none => none

/-- The number that digits of a base form; no digits at all are zero. -/
def number? (base : Nat) (cs : List Char) : Option Nat :=
  cs.foldlM (appendDigit? base) 0

end BulkWrite.Text
