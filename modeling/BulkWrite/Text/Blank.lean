/-!
# Blank characters

The characters with the Unicode property White_Space, and a text without those at its ends.
-/

namespace BulkWrite.Text

/-- White_Space holds of the five ASCII controls from tab to carriage return, of the space, and of
these separators. -/
def isBlank (c : Char) : Bool :=
  let n := c.toNat
  (0x09 ≤ n && n ≤ 0x0D) || n == 0x20 || n == 0x85 || n == 0xA0 || n == 0x1680
    || (0x2000 ≤ n && n ≤ 0x200A) || n == 0x2028 || n == 0x2029 || n == 0x202F || n == 0x205F
    || n == 0x3000

def trimEnd (cs : List Char) : List Char :=
  (cs.reverse.dropWhile isBlank).reverse

def trim (s : String) : String :=
  String.ofList (trimEnd (s.toList.dropWhile isBlank))

/-- ASCII capitals become small letters; every other character stays. -/
def foldCase (s : String) : String :=
  String.ofList (s.toList.map Char.toLower)

end BulkWrite.Text
