import BulkWrite.Text.Digit

/-!
# Percent encoding

A component of an address writes a character that it cannot hold plainly as the bytes of its UTF-8
form, each as a percent sign and two digits in base 16. Which characters these are depends on the
component; a percent sign itself stays, so that nothing is encoded twice.
-/

namespace BulkWrite.Percent

/-! ## Encoding -/

def byte (b : UInt8) : List Char :=
  ['%', (Nat.digitChar (b.toNat / 16)).toUpper, (Nat.digitChar (b.toNat % 16)).toUpper]

def bytes (c : Char) : List Char :=
  (String.utf8EncodeChar c).flatMap byte

/-- The characters of a component, with those that it `cannotHold` by their bytes. -/
def encode (cannotHold : Char → Bool) (cs : List Char) : List Char :=
  cs.flatMap fun c => if cannotHold c then bytes c else [c]

/-- The bytes that an encoded text stands for. A percent sign without two digits behind it stands
for itself. -/
def decode : List Char → List UInt8
  | [] => []
  | '%' :: a :: b :: cs =>
    match Text.number? 16 [a, b] with
    | some n => n.toUInt8 :: decode cs
    | none => 0x25 :: decode (a :: b :: cs)
  | c :: cs => String.utf8EncodeChar c ++ decode cs

/-- The text that an encoded text stands for, if its bytes are the UTF-8 form of one. -/
def decodeText? (cs : List Char) : Option String :=
  String.fromUTF8? ⟨(decode cs).toArray⟩

/-! ## What the components cannot hold -/

/-- A control, or a character beyond ASCII. -/
def isControl (c : Char) : Bool :=
  c.toNat < 0x20 || 0x7F ≤ c.toNat

def inFragment (c : Char) : Bool :=
  isControl c || [' ', '"', '<', '>', '\x60'].contains c

def inPath (c : Char) : Bool :=
  inFragment c || ['#', '?', '\x7b', '\x7d'].contains c

def inUserInfo (c : Char) : Bool :=
  inPath c || ['/', ':', ';', '=', '@', '[', '\\', ']', '^', '|'].contains c

/-- What a query cannot hold; a special scheme allows no single quote either. -/
def inQuery (special : Bool) (c : Char) : Bool :=
  isControl c || [' ', '"', '#', '<', '>'].contains c || (special && c == '\'')

/-! ## Forms -/

/-- The characters that a form writes plainly. -/
def isPlainInForm (c : Char) : Bool :=
  c.isAlphanum || ['*', '-', '.', '_'].contains c

/-- A name or a value of a form, in which a space is written as a plus sign. -/
def formText (s : String) : List Char :=
  s.toList.flatMap fun c =>
    if c == ' ' then ['+'] else if isPlainInForm c then [c] else bytes c

/-- A form as a query. -/
def form (fields : List (String × String)) : List Char :=
  ['&'].intercalate (fields.map fun (name, value) => formText name ++ '=' :: formText value)

end BulkWrite.Percent
