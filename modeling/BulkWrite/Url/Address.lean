import BulkWrite.Text.Digit
import BulkWrite.Text.Quoted

/-!
# Addresses of machines

A machine is addressed by a number of 32 bits, written as four numbers between dots, or by eight
pieces of 16 bits, written in base 16 between colons. The longest run of zero pieces may be left
out.

People write the first kind in many ways: fewer numbers, of which the last one fills the rest, and
numbers in base 8 and base 16.
-/

namespace BulkWrite

/-! ## Four numbers -/

structure Ipv4 where
  number : UInt32
deriving DecidableEq, Repr

namespace Ipv4

def text (a : Ipv4) : String :=
  let n := a.number.toNat
  s!"{n / 0x1000000}.{n / 0x10000 % 256}.{n / 256 % 256}.{n % 256}"

/-- A number in base 10, behind a zero in base 8, or behind a mark in base 16. -/
def number? : List Char → Option Nat
  | [] => none
  | '0' :: 'x' :: cs | '0' :: 'X' :: cs => Text.number? 16 cs
  | ['0'] => some 0
  | '0' :: cs => Text.number? 8 cs
  | cs => Text.number? 10 cs

/-- The parts of a name between its dots; a dot at the end does not count. -/
def parts (name : List Char) : List (List Char) :=
  let parts := name.splitOn '.'
  if parts.length ≠ 1 ∧ parts.getLast? = some [] then parts.dropLast else parts

/-- Whether a name is meant as an address: its last part is a number. -/
def isMeant (name : List Char) : Bool :=
  match (parts name).getLast? with
  | none | some [] => false
  | some last => last.all Char.isDigit || (number? last).isSome

/-- The number that several numbers make together: all but the last one are bytes, and the last one
fills the rest. -/
def combine? : (bytes : Nat) → List Nat → Option Nat
  | _, [] => none
  | bytes, [n] => if n < Nat.pow 256 bytes then some n else none
  | 0, _ => none
  | bytes + 1, n :: ns =>
    if n < 256 then (combine? bytes ns).map (n * Nat.pow 256 bytes + ·) else none

/-- The address that a name is meant as. -/
def read? (name : List Char) : Option Ipv4 :=
  match (parts name).mapM number? with
  | some ns => (combine? 4 ns).map fun n => ⟨n.toUInt32⟩
  | none => none

/-- One of four numbers in base 10, without zeros in front. -/
def strictByte? (cs : List Char) : Option Nat :=
  match cs with
  | [] => none
  | '0' :: _ :: _ => none
  | cs => (Text.number? 10 cs).filter (· < 256)

def readStrict? (cs : List Char) : Option Ipv4 :=
  let parts := cs.splitOn '.'
  if parts.length = 4 then
    match parts.mapM strictByte? with
    | some ns => (combine? 4 ns).map fun n => ⟨n.toUInt32⟩
    | none => none
  else none

end Ipv4

/-! ## Eight pieces -/

structure Ipv6 where
  pieces : List UInt16
  length_pieces : pieces.length = 8
deriving DecidableEq, Repr

namespace Ipv6

def ofPieces? (pieces : List UInt16) : Option Ipv6 :=
  if h : pieces.length = 8 then some ⟨pieces, h⟩ else none

def pieceText (n : UInt16) : String :=
  String.ofList (Text.hexDigits n.toNat)

/-- The piece that one to four digits in base 16 form. -/
def piece? (cs : List Char) : Option UInt16 :=
  if cs.isEmpty ∨ 4 < cs.length then none else (Text.number? 16 cs).map Nat.toUInt16

/-- How many zero pieces follow each other, at each place. -/
def zerosFrom : List UInt16 → List Nat
  | [] => []
  | n :: ns => (if n = 0 then (zerosFrom ns).headD 0 + 1 else 0) :: zerosFrom ns

/-- The address; the first of the longest runs of at least two zeros is left out. -/
def text (a : Ipv6) : String :=
  let join (ns : List UInt16) := ":".intercalate (ns.map pieceText)
  let zeros := zerosFrom a.pieces
  let longest := zeros.foldl max 0
  if longest < 2 then join a.pieces
  else
    let start := zeros.idxOf longest
    s!"{join (a.pieces.take start)}::{join (a.pieces.drop (start + longest))}"

/-- The address, where one that stands for four numbers ends with them. -/
def mixedText (a : Ipv6) : String :=
  match a.pieces with
  | [0, 0, 0, 0, 0, 0xFFFF, high, low] =>
    s!"::ffff:{(Ipv4.mk (high.toNat * 0x10000 + low.toNat).toUInt32).text}"
  | _ => a.text

/-- The pieces between colons. The last group may be four numbers, which make two pieces. -/
def groups? : List (List Char) → Option (List UInt16)
  | [] => some []
  | [last] =>
    match piece? last with
    | some n => some [n]
    | none =>
      (Ipv4.readStrict? last).map fun a =>
        [(a.number.toNat / 0x10000).toUInt16, (a.number.toNat % 0x10000).toUInt16]
  | g :: gs =>
    match piece? g, groups? gs with
    | some n, some ns => some (n :: ns)
    | _, _ => none

def split (cs : List Char) : List (List Char) :=
  if cs.isEmpty then [] else cs.splitOn ':'

/-- The text before and behind the first two colons that follow each other. -/
def cut? : List Char → Option (List Char × List Char)
  | [] => none
  | ':' :: ':' :: cs => some ([], cs)
  | c :: cs => (cut? cs).map fun (before, behind) => (c :: before, behind)

/-- Reads an address. Two colons stand for at least one zero piece. -/
def read? (cs : List Char) : Option Ipv6 :=
  match cut? cs with
  | none => (groups? (split cs)).bind ofPieces?
  | some (before, behind) =>
    match (split before).mapM piece?, groups? (split behind) with
    | some front, some back =>
      let missing := 8 - (front.length + back.length)
      if missing = 0 then none else ofPieces? (front ++ List.replicate missing 0 ++ back)
    | _, _ => none

end Ipv6

end BulkWrite
