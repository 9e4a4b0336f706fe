import BulkWrite.Json.Value

/-!
# Compact text of a value

The text holds no blanks. `Json.write v rest` is the text of `v` followed by `rest`, so nothing is
ever appended to the right of a long text. A text value escapes the quote, the backslash and the
controls below the space; all other characters stand for themselves.
-/

namespace BulkWrite.Json

def hexDigit (n : Nat) : Char :=
  Nat.digitChar n

/-- A control below the space as a numbered escape. -/
def numberedEscape (n : Nat) : List Char :=
  ['\\', 'u', '0', '0', hexDigit (n / 16), hexDigit (n % 16)]

def escape (c : Char) : List Char :=
  match c with
  | '"' => ['\\', '"']
  | '\\' => ['\\', '\\']
  | '\x08' => ['\\', 'b']
  | '\x0c' => ['\\', 'f']
  | '\n' => ['\\', 'n']
  | '\r' => ['\\', 'r']
  | '\t' => ['\\', 't']
  | c => if c.toNat < 0x20 then numberedEscape c.toNat else [c]

/-- The characters of a text value up to its closing quote, then `rest`. -/
def writeChars : List Char → List Char → List Char
  | [], rest => '"' :: rest
  | c :: cs, rest => escape c ++ writeChars cs rest

def writeText (s : String) (rest : List Char) : List Char :=
  '"' :: writeChars s.toList rest

mutual

/-- The text of a value, then `rest`. -/
def write : Json → List Char → List Char
  | .null, rest => 'n' :: 'u' :: 'l' :: 'l' :: rest
  | .bool true, rest => 't' :: 'r' :: 'u' :: 'e' :: rest
  | .bool false, rest => 'f' :: 'a' :: 'l' :: 's' :: 'e' :: rest
  | .number n, rest => n.text ++ rest
  | .text s, rest => writeText s rest
  | .array [], rest => '[' :: ']' :: rest
  | .array (v :: vs), rest => '[' :: write v (writeItems vs rest)
  | .object [], rest => '\x7b' :: '\x7d' :: rest
  | .object ((name, v) :: ms), rest =>
    '\x7b' :: writeText name (':' :: write v (writeMembers ms rest))

def writeItems : List Json → List Char → List Char
  | [], rest => ']' :: rest
  | v :: vs, rest => ',' :: write v (writeItems vs rest)

/-- The members of an object behind its first one, then `rest`. -/
def writeMembers : List (String × Json) → List Char → List Char
  | [], rest => '\x7d' :: rest
  | (name, v) :: ms, rest => ',' :: writeText name (':' :: write v (writeMembers ms rest))

end

def print (v : Json) : String :=
  String.ofList (write v [])

end BulkWrite.Json
