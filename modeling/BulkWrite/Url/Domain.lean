import BulkWrite.Text.Blank
import BulkWrite.Url.Punycode

/-!
# Domain names

A domain name is written in one way only, with ASCII: small letters, plain dots between its labels,
and each label that holds other characters in Punycode behind a mark. `Domain.ascii?` brings a name
into this form or refuses it.

Capitals are known for the Latin, Greek, Cyrillic and Armenian alphabets. Composed characters are
taken as they stand.
-/

namespace BulkWrite.Domain

/-! ## Characters -/

/-- Capitals that lie together: every `step`-th code point between two, and how far away the small
letters are. -/
structure Capitals where
  first : Nat
  last : Nat
  step : Nat
  shift : Nat

/-- The capitals of the alphabets that are known. -/
def capitals : List Capitals :=
  [⟨0x41, 0x5A, 1, 32⟩,
    ⟨0xC0, 0xD6, 1, 32⟩, ⟨0xD8, 0xDE, 1, 32⟩,
    ⟨0x100, 0x12E, 2, 1⟩, ⟨0x134, 0x136, 2, 1⟩, ⟨0x139, 0x13D, 2, 1⟩, ⟨0x141, 0x147, 2, 1⟩,
    ⟨0x14A, 0x176, 2, 1⟩, ⟨0x179, 0x17D, 2, 1⟩, ⟨0x1CD, 0x1DB, 2, 1⟩, ⟨0x1DE, 0x1EE, 2, 1⟩,
    ⟨0x1F8, 0x21E, 2, 1⟩, ⟨0x222, 0x232, 2, 1⟩, ⟨0x1E00, 0x1E94, 2, 1⟩, ⟨0x1EA0, 0x1EFE, 2, 1⟩,
    ⟨0x386, 0x386, 1, 38⟩, ⟨0x388, 0x38A, 1, 37⟩, ⟨0x38C, 0x38C, 1, 64⟩, ⟨0x38E, 0x38F, 1, 63⟩,
    ⟨0x391, 0x3A1, 1, 32⟩, ⟨0x3A3, 0x3AB, 1, 32⟩,
    ⟨0x400, 0x40F, 1, 80⟩, ⟨0x410, 0x42F, 1, 32⟩, ⟨0x460, 0x480, 2, 1⟩, ⟨0x48A, 0x4BE, 2, 1⟩,
    ⟨0x4C1, 0x4CD, 2, 1⟩, ⟨0x4D0, 0x52E, 2, 1⟩,
    ⟨0x531, 0x556, 1, 48⟩]

/-- Whether a code point is one of these capitals. -/
def Capitals.contains (r : Capitals) (n : Nat) : Bool :=
  r.first ≤ n && n ≤ r.last && (n - r.first) % r.step == 0

/-- The small letter of a capital; every other character stays. -/
def small (c : Char) : Char :=
  match capitals.find? (·.contains c.toNat) with
  | some r => Char.ofNat (c.toNat + r.shift)
  | none => if c.toNat = 0x178 then 'ÿ' else if c.toNat = 0x1E9E then 'ß' else c

/-- The wide forms of ASCII stand for the narrow ones. -/
def narrow (c : Char) : Char :=
  if 0xFF01 ≤ c.toNat ∧ c.toNat ≤ 0xFF5E then Char.ofNat (c.toNat - 0xFEE0) else c

/-- Whether a character leaves no trace in a name. -/
def isIgnored (c : Char) : Bool :=
  let n := c.toNat
  n == 0xAD || n == 0x34F || n == 0x200B || n == 0x2060 || n == 0x2064 || n == 0xFEFF
    || (0x180B ≤ n && n ≤ 0x180D) || (0xFE00 ≤ n && n ≤ 0xFE0F)

def isDot (c : Char) : Bool :=
  c.toNat == 0x3002 || c.toNat == 0xFF0E || c.toNat == 0xFF61

/-- The characters that stand for a character in a name. -/
def canonical (c : Char) : List Char :=
  if isIgnored c then [] else if isDot c then ['.'] else [small (narrow c)]

/-- Whether a character may not occur in a name: the controls, the blanks, what delimits the parts
of an address, and code points without a meaning of their own. -/
def isRefused (c : Char) : Bool :=
  let n := c.toNat
  n ≤ 0x20 || (0x7F ≤ n && n ≤ 0x9F) || Text.isBlank c
    || ['%', '#', '/', ':', '<', '>', '?', '@', '[', '\\', ']', '^', '|'].contains c
    || (0x200E ≤ n && n ≤ 0x200F) || (0x202A ≤ n && n ≤ 0x202E) || (0x2061 ≤ n && n ≤ 0x206F)
    || (0xE000 ≤ n && n ≤ 0xF8FF) || (0xFDD0 ≤ n && n ≤ 0xFDEF) || (0xFFF9 ≤ n && n ≤ 0xFFFF)
    || 0xE0000 ≤ n

/-! ## Names -/

def mark : List Char := ['x', 'n', '-', '-']

/-- Whether a text behind the mark is the one form of a label that needs it. -/
def isEncoded (text : List Char) : Bool :=
  match Punycode.decode? text with
  | some label =>
    label.any (fun c => Punycode.firstPoint ≤ c.toNat)
      && label.all (fun c => canonical c == [c] && !isRefused c) && Punycode.encode label == text
  | none => false

def label? (label : List Char) : Option (List Char) :=
  if mark.isPrefixOf label then
    if isEncoded (label.drop mark.length) then some label else none
  else if label.all fun c => c.toNat < Punycode.firstPoint then some label
  else some (mark ++ Punycode.encode label)

/-- The one form of a name, or nothing if it is no name. -/
def ascii? (name : String) : Option (List Char) :=
  let cs := name.toList.flatMap canonical
  if cs.any isRefused then none
  else ((cs.splitOn '.').mapM label?).map (['.'].intercalate ·)

end BulkWrite.Domain
