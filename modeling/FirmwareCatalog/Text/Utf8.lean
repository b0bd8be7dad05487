/-
**UTF-8.**

Bytes become text one character at a time.  The first byte of a character says how many bytes
follow and narrows the range of the next one, so that overlong forms, surrogates and code points
beyond U+10FFFF are refused at the first byte that shows it.  The bytes read so far then stand for
one fault, and the refused byte starts afresh.

Main definitions:

* `Utf8.decodeUnits` — the characters and faults of a byte sequence, in order;
* `Utf8.decode?` — the text, if the sequence has no fault;
* `Utf8.decodeLossy` — the text with U+FFFD for each fault;
* `Utf8.encode` — the bytes of a text.
-/

set_option relaxedAutoImplicit false
set_option autoImplicit false

namespace FirmwareCatalog.Utf8

/-- A character under way: how many bytes it still owes, the range the next one must lie in, and
the bits read so far. -/
structure Pending where
  owed : Nat
  low : Nat
  high : Nat
  bits : Nat
  deriving DecidableEq, Repr

/-- What a byte means between two characters. -/
inductive Lead where
  /-- A whole character. -/
  | single (c : Char)
  /-- The first byte of a longer character. -/
  | start (p : Pending)
  /-- A byte that starts no character. -/
  | invalid

/-- What a byte means between two characters. -/
def lead (b : UInt8) : Lead :=
  let n := b.toNat
  if n < 0x80 then .single (Char.ofNat n)
  else if n < 0xC2 then .invalid
  else if n < 0xE0 then .start ⟨1, 0x80, 0xBF, n - 0xC0⟩
  else if n = 0xE0 then .start ⟨2, 0xA0, 0xBF, 0⟩
  else if n = 0xED then .start ⟨2, 0x80, 0x9F, 0xD⟩
  else if n < 0xF0 then .start ⟨2, 0x80, 0xBF, n - 0xE0⟩
  else if n = 0xF0 then .start ⟨3, 0x90, 0xBF, 0⟩
  else if n < 0xF4 then .start ⟨3, 0x80, 0xBF, n - 0xF0⟩
  else if n = 0xF4 then .start ⟨3, 0x80, 0x8F, 4⟩
  else .invalid

/-- The units of a byte sequence that continues the character under way, if there is one: a
character, or nothing for a fault. -/
def unitsFrom : Option Pending → List UInt8 → List (Option Char)
  | none, [] => []
  | some _, [] => [none]
  | none, b :: r =>
    match lead b with
    | .single c => some c :: unitsFrom none r
    | .start p => unitsFrom (some p) r
    | .invalid => none :: unitsFrom none r
  | some p, b :: r =>
    if p.low ≤ b.toNat ∧ b.toNat ≤ p.high then
      let bits := p.bits * 64 + (b.toNat - 0x80)
      if p.owed ≤ 1 then some (Char.ofNat bits) :: unitsFrom none r
      else unitsFrom (some ⟨p.owed - 1, 0x80, 0xBF, bits⟩) r
    else
      none :: match lead b with
        | .single c => some c :: unitsFrom none r
        | .start q => unitsFrom (some q) r
        | .invalid => none :: unitsFrom none r

/-- The characters and faults of a byte sequence, in order. -/
def decodeUnits (bytes : List UInt8) : List (Option Char) := unitsFrom none bytes

/-- The text of a byte sequence without faults. -/
def decode? (bytes : List UInt8) : Option (List Char) := (decodeUnits bytes).mapM id

/-- The text of a byte sequence, with the replacement character U+FFFD for each fault. -/
def decodeLossy (bytes : List UInt8) : List Char :=
  (decodeUnits bytes).map fun u => u.getD (Char.ofNat 0xFFFD)

/-- The bytes of a text. -/
def encode (s : List Char) : List UInt8 := s.flatMap String.utf8EncodeChar

def size : List Char → Nat
  | [] => 0
  | c :: rest => c.utf8Size + size rest

end FirmwareCatalog.Utf8
