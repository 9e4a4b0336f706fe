import BulkWrite.Json.Document
import BulkWrite.Text.Digit

/-!
# Reading a document

`Document.read?` reads a text that is exactly one value with blanks around it. Every reader here
takes the text from where it stands and gives back what it read together with the text behind it.
The nesting of arrays and objects is bounded by fuel, of which a text needs at most two units for
each of its characters.
-/

namespace BulkWrite.Json

/-- The four characters that may stand between the parts of a document. -/
def isSpace (c : Char) : Bool :=
  c == ' ' || c == '\t' || c == '\n' || c == '\r'

def skipSpace (cs : List Char) : List Char :=
  cs.dropWhile isSpace

/-! ## Texts -/

def hexWord? (a b c d : Char) : Option Nat :=
  Text.number? 16 [a, b, c, d]

def unescape? : Char → Option Char
  | '"' => some '"'
  | '\\' => some '\\'
  | '/' => some '/'
  | 'b' => some '\x08'
  | 'f' => some '\x0c'
  | 'n' => some '\n'
  | 'r' => some '\r'
  | 't' => some '\t'
  | _ => none

def isHighHalf (n : Nat) : Bool :=
  0xD800 ≤ n && n ≤ 0xDBFF

def isLowHalf (n : Nat) : Bool :=
  0xDC00 ≤ n && n ≤ 0xDFFF

def joinHalves (high low : Nat) : Char :=
  Char.ofNat (0x10000 + (high - 0xD800) * 0x400 + (low - 0xDC00))

/-- What stands between the quotes of a text: its characters, or nothing if it is flawed, and the
text behind the closing quote. -/
abbrev TextRead := Option (Option (List Char) × List Char)

def TextRead.prepend (c : Char) (r : TextRead) : TextRead :=
  r.map fun (cs, rest) => (cs.map (c :: ·), rest)

def TextRead.flaw (r : TextRead) : TextRead :=
  r.map fun (_, rest) => (none, rest)

/-- Reads the characters of a text behind its opening quote. -/
def readChars : List Char → TextRead
  | [] => none
  | '"' :: rest => some (some [], rest)
  | '\\' :: 'u' :: a :: b :: c :: d :: rest =>
    match hexWord? a b c d with
    | none => none
    | some n =>
      if isLowHalf n then (readChars rest).flaw
      else if isHighHalf n then
        match rest with
        | '\\' :: 'u' :: e :: f :: g :: h :: after =>
          match hexWord? e f g h with
          | some m =>
            if isLowHalf m then (readChars after).prepend (joinHalves n m)
            else (readChars ('\\' :: 'u' :: e :: f :: g :: h :: after)).flaw
          | none => none
        | rest => (readChars rest).flaw
      else (readChars rest).prepend (Char.ofNat n)
  | '\\' :: c :: rest =>
    match unescape? c with
    | some c => (readChars rest).prepend c
    | none => none
  | ['\\'] => none
  | c :: rest => if c.toNat < 0x20 then none else (readChars rest).prepend c
termination_by cs => cs.length

/-- Reads a text behind its opening quote; a flawed one is absent. -/
def readText (cs : List Char) : Option (Option String × List Char) :=
  (readChars cs).map fun (cs, rest) => (cs.map String.ofList, rest)

/-! ## Numbers -/

def readDigits : List Char → List Nat × List Char
  | [] => ([], [])
  | c :: cs =>
    if c.isDigit then
      let (ds, rest) := readDigits cs
      ((c.toNat - '0'.toNat) :: ds, rest)
    else ([], c :: cs)

def ofDigits (ds : List Nat) : Nat :=
  ds.foldl (fun n d => n * 10 + d) 0

def readPlaces : List Char → Option (Option (List Nat) × List Char)
  | '.' :: cs =>
    match readDigits cs with
    | ([], _) => none
    | (ds, rest) => some (some ds, rest)
  | cs => some (none, cs)

def readExponentDigits (negative : Bool) (cs : List Char) : Option (Option Int × List Char) :=
  match readDigits cs with
  | ([], _) => none
  | (ds, rest) => some (some (if negative then -(ofDigits ds : Int) else ofDigits ds), rest)

def readExponent : List Char → Option (Option Int × List Char)
  | c :: cs =>
    if c = 'e' ∨ c = 'E' then
      match cs with
      | '+' :: cs => readExponentDigits false cs
      | '-' :: cs => readExponentDigits true cs
      | cs => readExponentDigits false cs
    else some (none, c :: cs)
  | [] => some (none, [])

/-- Reads a number without its sign. A leading zero stands alone in front of the point. -/
def readUnsigned (negative : Bool) (cs : List Char) : Option (Literal × List Char) :=
  match readDigits cs with
  | ([], _) => none
  | (0 :: _ :: _, _) => none
  | (digits, rest) =>
    match readPlaces rest with
    | none => none
    | some (places, rest) =>
      match readExponent rest with
      | none => none
      | some (exponent, rest) => some (⟨negative, digits, places, exponent⟩, rest)

def readLiteral : List Char → Option (Literal × List Char)
  | '-' :: cs => readUnsigned true cs
  | cs => readUnsigned false cs

/-- Reads a number; one that is too large is a flaw. -/
def readNumber (cs : List Char) : Option (Document × List Char) :=
  (readLiteral cs).map fun (l, rest) =>
    (match l.value? with
      | some n => .number n
      | none => .flawed, rest)

/-! ## Values -/

/-- An array or object that `depth` others enclose. -/
def nested (depth : Nat) (d : Document) : Document :=
  if depth < Document.nestingBound then d else .flawed

mutual

/-- Reads a value that `depth` arrays and objects enclose, after the spaces in front of it. -/
def readValue : Nat → Nat → List Char → Option (Document × List Char)
  | 0, _, _ => none
  | fuel + 1, depth, cs =>
    match skipSpace cs with
    | 'n' :: 'u' :: 'l' :: 'l' :: rest => some (.null, rest)
    | 't' :: 'r' :: 'u' :: 'e' :: rest => some (.bool true, rest)
    | 'f' :: 'a' :: 'l' :: 's' :: 'e' :: rest => some (.bool false, rest)
    | '"' :: rest =>
      (readText rest).map fun (s, rest) =>
        (match s with
          | some s => .text s
          | none => .flawed, rest)
    | '[' :: rest =>
      match skipSpace rest with
      | ']' :: rest => some (nested depth (.sequence []), rest)
      | rest =>
        match readItems fuel (depth + 1) rest with
        | some (items, rest) => some (nested depth (.sequence items), rest)
        | none => none
    | '\x7b' :: rest =>
      match skipSpace rest with
      | '\x7d' :: rest => some (nested depth (.mapping []), rest)
      | rest =>
        match readMembers fuel (depth + 1) rest with
        | some (members, rest) => some (nested depth (.mapping members), rest)
        | none => none
    | cs => readNumber cs

def readItems : Nat → Nat → List Char → Option (List Document × List Char)
  | 0, _, _ => none
  | fuel + 1, depth, cs =>
    match readValue fuel depth cs with
    | none => none
    | some (d, rest) =>
      match skipSpace rest with
      | ']' :: rest => some ([d], rest)
      | ',' :: rest =>
        match readItems fuel depth rest with
        | some (ds, rest) => some (d :: ds, rest)
        | none => none
      | _ => none

def readMembers : Nat → Nat → List Char → Option (List (Option String × Document) × List Char)
  | 0, _, _ => none
  | fuel + 1, depth, cs =>
    match skipSpace cs with
    | '"' :: rest =>
      match readText rest with
      | none => none
      | some (name, rest) =>
        match skipSpace rest with
        | ':' :: rest =>
          match readValue fuel depth rest with
          | none => none
          | some (d, rest) =>
            match skipSpace rest with
            | '\x7d' :: rest => some ([(name, d)], rest)
            | ',' :: rest =>
              match readMembers fuel depth rest with
              | some (ms, rest) => some ((name, d) :: ms, rest)
              | none => none
            | _ => none
        | _ => none
    | _ => none

end

def readerFuel (cs : List Char) : Nat :=
  2 * cs.length + 2

end BulkWrite.Json

namespace BulkWrite.Document

/-- The document that a text holds; none if the text is no document. -/
def read? (s : String) : Option Document :=
  let cs := s.toList
  match Json.readValue (Json.readerFuel cs) 0 cs with
  | some (d, rest) => if (Json.skipSpace rest).isEmpty then some d else none
  | none => none

end BulkWrite.Document

namespace BulkWrite.Json

/-- The value that a text holds; none if the text is no document or a flawed one. -/
def read? (s : String) : Option Json :=
  (Document.read? s).bind Document.toJson?

end BulkWrite.Json
