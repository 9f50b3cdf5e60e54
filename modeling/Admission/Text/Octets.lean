/-
# Characters from bytes

A character is written in up to four bytes.  This file reads the characters that any bytes stand
for: where no character can come of the bytes read so far, the replacement character takes their
place, and reading starts anew with the byte that did not fit.
-/
namespace Admission.Text

/-- A character of which the first bytes have been read. -/
structure Octets where
  /-- The bits of the bytes so far. -/
  bits : Nat
  /-- How many bytes are missing. -/
  missing : Nat
  /-- The least value of the next byte. -/
  least : Nat
  /-- The greatest value of the next byte. -/
  greatest : Nat
deriving DecidableEq, Repr

namespace Octets

/-- What a first byte begins, if it can begin anything.  The bounds of the second byte leave out
the characters that have a shorter form, the halves of pairs, and what lies beyond the last
character. -/
def begin? (b : Nat) : Option Octets :=
  if b < 0xC2 then none
  else if b < 0xE0 then some ⟨b - 0xC0, 1, 0x80, 0xBF⟩
  else if b < 0xF0 then
    some ⟨b - 0xE0, 2, if b = 0xE0 then 0xA0 else 0x80, if b = 0xED then 0x9F else 0xBF⟩
  else if b < 0xF5 then
    some ⟨b - 0xF0, 3, if b = 0xF0 then 0x90 else 0x80, if b = 0xF4 then 0x8F else 0xBF⟩
  else none

/-- What stands for bytes that are no character. -/
def replacement : Char := '\uFFFD'

/-- Reads a byte between two characters: the character that it is, or the one that it begins. -/
def first (b : Nat) : List Char × Option Octets :=
  if b < 0x80 then ([Char.ofNat b], none)
  else
    match begin? b with
    | some o => ([], some o)
    | none => ([replacement], none)

/-- Reads a byte inside a character. -/
def next (o : Octets) (b : Nat) : List Char × Option Octets :=
  if b < o.least ∨ o.greatest < b then
    let (cs, begun) := first b
    (replacement :: cs, begun)
  else
    let bits := 0x40 * o.bits + (b - 0x80)
    if o.missing = 1 then ([Char.ofNat bits], none)
    else ([], some ⟨bits, o.missing - 1, 0x80, 0xBF⟩)

/-- The characters that bytes stand for, after those of a character that has begun. -/
def characters : Option Octets → List UInt8 → List Char
  | none, [] => []
  | some _, [] => [replacement]
  | none, b :: bs =>
    let (cs, begun) := first b.toNat
    cs ++ characters begun bs
  | some o, b :: bs =>
    let (cs, begun) := o.next b.toNat
    cs ++ characters begun bs

end Octets

/-- The text that bytes stand for. -/
def ofBytes (bs : List UInt8) : String :=
  String.ofList (Octets.characters none bs)

end Admission.Text
