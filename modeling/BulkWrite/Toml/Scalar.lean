import BulkWrite.Json.Reader

/-!
# Scalars of a TOML document

Texts come in four kinds of quotes. All other scalars are words without blanks, but for a date and a
time with one blank between them: truth values, whole numbers in four bases, binary numbers, dates
and times. A binary number is rounded correctly.
-/

namespace BulkWrite.Toml

/-! ## Texts -/

/-- The controls that may stand nowhere in a document. -/
def isForbidden (c : Char) : Bool :=
  (c.toNat < 0x20 && c != '\t') || c.toNat == 0x7F

/-- The character of a number, if there is one. -/
def scalarValue? (n : Nat) : Option Char :=
  if n < 0xD800 ∨ (0xDFFF < n ∧ n ≤ 0x10FFFF) then some (Char.ofNat n) else none

/-- The character of a numbered escape with so many digits, and the text behind it. -/
def readNumbered (digits : Nat) (cs : List Char) : Option (Char × List Char) :=
  if cs.length < digits then none
  else ((Text.number? 16 (cs.take digits)).bind scalarValue?).map (·, cs.drop digits)

def readEscape : List Char → Option (Char × List Char)
  | 'b' :: cs => some ('\x08', cs)
  | 't' :: cs => some ('\t', cs)
  | 'n' :: cs => some ('\n', cs)
  | 'f' :: cs => some ('\x0c', cs)
  | 'r' :: cs => some ('\r', cs)
  | '"' :: cs => some ('"', cs)
  | '\\' :: cs => some ('\\', cs)
  | 'u' :: cs => readNumbered 4 cs
  | 'U' :: cs => readNumbered 8 cs
  | _ => none

def readBasic : Nat → List Char → Option (List Char × List Char)
  | 0, _ => none
  | fuel + 1, cs =>
    match cs with
    | [] => none
    | '"' :: rest => some ([], rest)
    | '\\' :: rest =>
      match readEscape rest with
      | none => none
      | some (c, rest) => (readBasic fuel rest).map fun (cs, rest) => (c :: cs, rest)
    | c :: rest =>
      if isForbidden c then none
      else (readBasic fuel rest).map fun (cs, rest) => (c :: cs, rest)

def readLiteralText : List Char → Option (List Char × List Char)
  | [] => none
  | '\'' :: rest => some ([], rest)
  | c :: rest =>
    if isForbidden c then none
    else (readLiteralText rest).map fun (cs, rest) => (c :: cs, rest)

def skipLineEnd : List Char → List Char
  | '\n' :: cs => cs
  | '\r' :: '\n' :: cs => cs
  | cs => cs

/-- Whether blanks and nothing else stand before the next line end. -/
def endsLine (cs : List Char) : Bool :=
  match cs.dropWhile fun c => c == ' ' || c == '\t' with
  | '\n' :: _ | '\r' :: '\n' :: _ => true
  | _ => false

/-- The text without the blanks and line ends at its start. -/
def skipSpread (cs : List Char) : List Char :=
  cs.dropWhile fun c => c == ' ' || c == '\t' || c == '\n' || c == '\r'

/-- Up to two quotes in front of the closing three, and the text behind all of them. -/
def closeMany (quote : Char) (cs : List Char) : List Char × List Char :=
  let count := min (cs.takeWhile (· == quote)).length 5
  (List.replicate (count - 3) quote, cs.drop count)

/-- Reads a text over several lines behind its opening quotes; `escapes` says whether a backslash
counts. -/
def readMany (quote : Char) (escapes : Bool) : Nat → List Char → Option (List Char × List Char)
  | 0, _ => none
  | fuel + 1, cs =>
    match cs with
    | [] => none
    | '\n' :: rest => (readMany quote escapes fuel rest).map fun (cs, rest) => ('\n' :: cs, rest)
    | '\r' :: '\n' :: rest =>
      (readMany quote escapes fuel rest).map fun (cs, rest) => ('\n' :: cs, rest)
    | c :: rest =>
      if c = quote ∧ (rest.take 2).all (· == quote) ∧ 2 ≤ rest.length then
        some (closeMany quote (c :: rest))
      else if c = '\\' ∧ escapes then
        if endsLine rest then readMany quote escapes fuel (skipSpread rest)
        else
          match readEscape rest with
          | none => none
          | some (c, rest) =>
            (readMany quote escapes fuel rest).map fun (cs, rest) => (c :: cs, rest)
      else if isForbidden c then none
      else (readMany quote escapes fuel rest).map fun (cs, rest) => (c :: cs, rest)

def readLine : List Char → Option (String × List Char)
  | '"' :: cs => (readBasic (cs.length + 1) cs).map fun (t, rest) => (String.ofList t, rest)
  | '\'' :: cs => (readLiteralText cs).map fun (t, rest) => (String.ofList t, rest)
  | _ => none

/-- Reads a text in any of the four kinds of quotes. -/
def readText (cs : List Char) : Option (String × List Char) :=
  let many (quote : Char) (escapes : Bool) (cs : List Char) :=
    (readMany quote escapes (cs.length + 1) (skipLineEnd cs)).map fun (t, rest) =>
      (String.ofList t, rest)
  match cs with
  | '"' :: '"' :: '"' :: cs => many '"' true cs
  | '\'' :: '\'' :: '\'' :: cs => many '\'' false cs
  | cs => readLine cs

/-! ## Numbers -/

/-- The digits of a number, between which single underscores may stand. -/
def plainDigits? (isDigit : Char → Bool) : List Char → Option (List Char)
  | [] => none
  | [c] => if isDigit c then some [c] else none
  | c :: '_' :: cs => if isDigit c then (plainDigits? isDigit cs).map (c :: ·) else none
  | c :: cs => if isDigit c then (plainDigits? isDigit cs).map (c :: ·) else none

def numberIn (base : Nat) (cs : List Char) : Nat :=
  (Text.number? base cs).getD 0

/-- A sign in front of a word: whether it is a minus, and the rest. -/
def unsigned : List Char → Bool × List Char
  | '+' :: cs => (false, cs)
  | '-' :: cs => (true, cs)
  | cs => (false, cs)

/-- The digits of a whole number in base 10; a zero in front stands alone. -/
def decimalDigits? (cs : List Char) : Option (List Char) :=
  match plainDigits? Char.isDigit cs with
  | some ('0' :: _ :: _) => none
  | digits => digits

/-- The least and the greatest whole number that can be read at all. -/
def isReadable (n : Int) : Bool :=
  -(Nat.pow 2 127 : Nat) ≤ n && n < Nat.pow 2 128

/-- A whole number. -/
def whole? (word : List Char) : Option Int :=
  let value :=
    match word with
    | '0' :: 'x' :: cs => (plainDigits? Char.isHexDigit cs).map fun d => (numberIn 16 d : Int)
    | '0' :: 'o' :: cs =>
      (plainDigits? (fun c => '0' ≤ c && c ≤ '7') cs).map fun d => (numberIn 8 d : Int)
    | '0' :: 'b' :: cs =>
      (plainDigits? (fun c => c == '0' || c == '1') cs).map fun d => (numberIn 2 d : Int)
    | word =>
      let (negative, cs) := unsigned word
      (decimalDigits? cs).map fun d =>
        if negative then -(numberIn 10 d : Int) else (numberIn 10 d : Int)
  value.filter isReadable

/-- A decimal number in the 64-bit format; none if it is too large. -/
def rounded? (negative : Bool) (digits : Nat) (exponent : Int) : Option Binary :=
  match Format.double.round negative (digits * Nat.pow 10 exponent.toNat)
    (Nat.pow 10 (-exponent).toNat) with
  | .finite s m e => some (.finite s m e)
  | _ => none

/-- An exponent beyond which every number of so many digits is zero or too large. -/
def exponentBound (digits : List Char) : Nat :=
  digits.length + 400

/-- The number of the given digits around the point. -/
def float? (negative : Bool) (digits places : List Char) (exponent : Int) : Option Binary :=
  let all := digits ++ places
  let n := numberIn 10 all
  let bound : Int := exponentBound all
  if n = 0 then some (Format.double.round negative 0 1)
  else
    let exponent := max (-bound) (min bound (exponent - places.length))
    rounded? negative n exponent

/-- The exponent behind its mark. -/
def exponent? (cs : List Char) : Option Int :=
  let (negative, cs) := unsigned cs
  (plainDigits? Char.isDigit cs).map fun d =>
    if negative then -(numberIn 10 d : Int) else (numberIn 10 d : Int)

def binary? (word : List Char) : Option Binary :=
  let (negative, cs) := unsigned word
  if cs = "inf".toList then some (.infinite negative)
  else if cs = "nan".toList then some .notANumber
  else
    let isMark c := c == 'e' || c == 'E'
    let significand := cs.takeWhile fun c => !isMark c
    let mark := cs.dropWhile fun c => !isMark c
    let exponent := match mark with
      | [] => some 0
      | _ :: cs => exponent? cs
    let digits := significand.takeWhile (· != '.')
    let places := match significand.dropWhile (· != '.') with
      | [] => if mark.isEmpty then none else some []
      | _ :: cs => plainDigits? Char.isDigit cs
    match decimalDigits? digits, places, exponent with
    | some digits, some places, some exponent => float? negative digits places exponent
    | _, _, _ => none

/-! ## Dates and times -/

/-- Exactly so many digits at the start of a text, as a number below a bound. -/
def fixedDigits? (count : Nat) (cs : List Char) : Option (Nat × List Char) :=
  let digits := cs.take count
  if digits.length = count ∧ digits.all Char.isDigit then some (numberIn 10 digits, cs.drop count)
  else none

def daysOf (year month : Nat) : Nat :=
  if month = 2 then
    if year % 4 = 0 ∧ (year % 100 ≠ 0 ∨ year % 400 = 0) then 29 else 28
  else if month = 4 ∨ month = 6 ∨ month = 9 ∨ month = 11 then 30
  else 31

/-- The text behind a date at the start of a text. -/
def afterDate? (cs : List Char) : Option (List Char) := do
  let (year, cs) ← fixedDigits? 4 cs
  let '-' :: cs := cs | none
  let (month, cs) ← fixedDigits? 2 cs
  let '-' :: cs := cs | none
  let (day, cs) ← fixedDigits? 2 cs
  if 1 ≤ month ∧ month ≤ 12 ∧ 1 ≤ day ∧ day ≤ daysOf year month then some cs else none

def afterTime? (cs : List Char) : Option (List Char) := do
  let (hour, cs) ← fixedDigits? 2 cs
  let ':' :: cs := cs | none
  let (minute, cs) ← fixedDigits? 2 cs
  let ':' :: cs := cs | none
  let (second, cs) ← fixedDigits? 2 cs
  if 23 < hour ∨ 59 < minute ∨ 60 < second then none
  match cs with
  | '.' :: cs =>
    match cs.takeWhile Char.isDigit with
    | [] => none
    | _ => some (cs.dropWhile Char.isDigit)
  | cs => some cs

/-- Whether a text is nothing, or an offset from the universal time. -/
def isOffset : List Char → Bool
  | [] | ['Z'] | ['z'] => true
  | c :: cs =>
    (c == '+' || c == '-') &&
      match fixedDigits? 2 cs with
      | some (hour, ':' :: cs) =>
        match fixedDigits? 2 cs with
        | some (minute, []) => hour ≤ 23 && minute ≤ 59
        | _ => false
      | _ => false

/-- Whether a text is a date, a time, or both. -/
def isMoment (cs : List Char) : Bool :=
  match afterDate? cs with
  | some [] => true
  | some (c :: cs) =>
    (c == 'T' || c == 't' || c == ' ') &&
      match afterTime? cs with
      | some cs => isOffset cs
      | none => false
  | none => afterTime? cs == some []

/-! ## Words -/

/-- Whether a word ends here. -/
def endsWord (c : Char) : Bool :=
  c == ',' || c == ']' || c == '\x7d' || c == ' ' || c == '\t' || c == '\n' || c == '\r' || c == '#'

/-- The word at the start of a text, and the text behind it. One blank between a date and a digit
belongs to the word. -/
def splitWord (cs : List Char) : List Char × List Char :=
  let word := cs.takeWhile fun c => !endsWord c
  let rest := cs.dropWhile fun c => !endsWord c
  match rest with
  | ' ' :: c :: cs =>
    if c.isDigit ∧ afterDate? word = some [] then
      (word ++ ' ' :: (c :: cs).takeWhile fun c => !endsWord c,
        (c :: cs).dropWhile fun c => !endsWord c)
    else (word, rest)
  | _ => (word, rest)

def word? (word : List Char) : Option Document :=
  if word = "true".toList then some (.bool true)
  else if word = "false".toList then some (.bool false)
  else
    match whole? word with
    | some n => some (.number (.whole n))
    | none =>
      match binary? word with
      | some x => some (.number (.double x))
      | none =>
        if isMoment word then
          some (.mapping [(some Document.momentMark, .text (String.ofList word))])
        else none

def readWord (cs : List Char) : Option (Document × List Char) :=
  let (word, rest) := splitWord cs
  (word? word).map (·, rest)

end BulkWrite.Toml
