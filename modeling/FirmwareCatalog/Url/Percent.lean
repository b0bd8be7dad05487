/-
**Percent encoding.**

A character that may not stand in some part of an address is written as its UTF-8 bytes, each as a
percent sign and two hexadecimal digits.  Every part of an address has its own set of such
characters; the characters beyond ASCII are in all of them.

Decoding reads a percent sign with two digits after it as a byte, and lets any other percent sign
stand for itself.

Main definitions:

* `Percent.control`, `Percent.path`, `Percent.query`, … — the sets of the parts of an address;
* `Percent.encode` — a text with the characters of a set encoded;
* `Percent.decode` — the bytes that a text stands for.
-/
import FirmwareCatalog.Text.Pieces
import FirmwareCatalog.Text.Utf8

set_option relaxedAutoImplicit false
set_option autoImplicit false

namespace FirmwareCatalog.Percent

/-! ### Sets -/

/-- Control characters, and everything beyond ASCII. -/
def control (c : Char) : Bool := c.toNat < 0x20 || 0x7E < c.toNat

def fragment (c : Char) : Bool := control c || [' ', '"', '<', '>', '\x60'].contains c

/-- What is encoded in a path. -/
def path (c : Char) : Bool := fragment c || ['#', '?', '\x7b', '\x7d'].contains c

def userinfo (c : Char) : Bool :=
  path c || ['/', ':', ';', '=', '@', '[', '\\', ']', '^', '|'].contains c

def segment (c : Char) : Bool := path c || ['/', '%'].contains c

def specialSegment (c : Char) : Bool := segment c || c == '\\'

/-- What is encoded in a query. -/
def query (c : Char) : Bool := control c || [' ', '"', '#', '<', '>'].contains c

def specialQuery (c : Char) : Bool := query c || c == '\''

/-! ### Encoding -/

def digit (n : Nat) : Char := (Nat.digitChar n).toUpper

def encodeByte (b : UInt8) : List Char := ['%', digit (b.toNat / 16), digit (b.toNat % 16)]

def encodeChar (set : Char → Bool) (c : Char) : List Char :=
  if set c then (Utf8.encode [c]).flatMap encodeByte else [c]

/-- A text with the characters of the set encoded. -/
def encode (set : Char → Bool) (s : List Char) : List Char := s.flatMap (encodeChar set)

/-! ### Decoding -/

/-- The bytes that a text stands for. -/
def decode : List Char → List UInt8
  | [] => []
  | '%' :: a :: b :: rest =>
    match Text.digitValue? a, Text.digitValue? b with
    | some x, some y => UInt8.ofNat (x * 16 + y) :: decode rest
    | _, _ => Utf8.encode ['%'] ++ decode (a :: b :: rest)
  | c :: rest => Utf8.encode [c] ++ decode rest

theorem encodeChar_of_not {set : Char → Bool} {c : Char} (h : set c = false) :
    encodeChar set c = [c] := by
  simp [encodeChar, h]

end FirmwareCatalog.Percent
