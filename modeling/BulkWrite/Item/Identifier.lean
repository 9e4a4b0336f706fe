/-!
# Generated identifiers

Items without an identifier of their own get a random one: 128 bits in five groups of digits in base
16, of which four bits are fixed for the version and two for the variant.
-/

namespace BulkWrite.Identifier

def version : Nat := 4

/-- Bits `low` and up of a number, as many as `width` says. -/
def bits (n low width : Nat) : Nat :=
  n / Nat.pow 2 low % Nat.pow 2 width

/-- So many digits of a number in base 16, leading zeros included. -/
def group (digits n : Nat) : String :=
  String.ofList ((List.range digits).reverse.map fun i => Nat.digitChar (bits n (4 * i) 4))

/-- The identifier that random bits give. -/
def ofRandom (n : Nat) : String :=
  let third := version * 0x1000 + bits n 64 12
  let fourth := 2 * 0x4000 + bits n 48 14
  "-".intercalate [group 8 (bits n 96 32), group 4 (bits n 80 16), group 4 third, group 4 fourth,
    group 12 (bits n 0 48)]

end BulkWrite.Identifier
