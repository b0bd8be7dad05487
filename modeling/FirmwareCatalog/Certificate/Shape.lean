/-
**The shape of certificates.**

A certificate is made of nested values, each with a tag and a length before its content.  Only the
outermost layers are looked at here: the statement that is certified with its parts in their order,
the way it is signed, and the signature.

Main definitions:

* `Certificate.values?` — the values of a byte sequence, one after the other;
* `Certificate.isShaped` — the bytes have the shape of a certificate;
* `Certificate.areUsable` — every certificate of a file can be used.
-/
import FirmwareCatalog.Certificate.Armour

set_option relaxedAutoImplicit false
set_option autoImplicit false

namespace FirmwareCatalog.Certificate

/-- A value: its tag and its content. -/
structure Value where
  tag : Nat
  content : List UInt8
  deriving DecidableEq, Repr

/-- A length and the bytes after it.  Lengths from 128 on are written in as few bytes as are enough,
after a byte that says how many. -/
def length? : List UInt8 → Option (Nat × List UInt8)
  | [] => none
  | b :: rest =>
    let n := b.toNat
    if n < 128 then some (n, rest)
    else
      let count := n - 128
      let digits := rest.take count
      let length := digits.foldl (fun m d => m * 256 + d.toNat) 0
      if 4 < count ∨ digits.length < count ∨ length < 128 ∨ length < Nat.pow 256 (count - 1) then none
      else some (length, rest.drop count)

/-- One value and the bytes after it. -/
def value? : List UInt8 → Option (Value × List UInt8)
  | [] => none
  | tag :: rest => do
    let (n, rest) ← length? rest
    if tag.toNat % 32 = 31 ∨ rest.length < n then none
    else some (⟨tag.toNat, rest.take n⟩, rest.drop n)

/-- The values of a byte sequence, one after the other; the first argument bounds their number. -/
def valuesUpTo? : Nat → List UInt8 → Option (List Value)
  | _, [] => some []
  | 0, _ :: _ => none
  | n + 1, bytes => do
    let (v, rest) ← value? bytes
    (valuesUpTo? n rest).map (v :: ·)

/-- The values of a byte sequence, one after the other.  No value is shorter than two bytes. -/
def values? (bytes : List UInt8) : Option (List Value) := valuesUpTo? bytes.length bytes

def sequence : Nat := 0x30

def integer : Nat := 0x02

def bits : Nat := 0x03

/-- The tags of what is certified: the serial number, how it is signed, who signs, from when to when,
who it is about, and the key; then perhaps two numbers and the extensions. -/
def isStatement (tags : List Nat) : Bool :=
  let required := [integer, sequence, sequence, sequence, sequence, sequence]
  let versioned := if tags.head? = some 0xA0 then tags.drop 1 else tags
  versioned.take required.length == required &&
    (versioned.drop required.length).isSublist [0x81, 0x82, 0xA3]

/-- The bytes have the shape of a certificate.  It says twice, in the same words, how it is
signed. -/
def isShaped (bytes : List UInt8) : Bool :=
  match values? bytes with
  | some [whole] =>
    match values? whole.content with
    | some [statement, method, signature] =>
      match values? statement.content with
      | none => false
      | some parts =>
        whole.tag == sequence && statement.tag == sequence && method.tag == sequence &&
          signature.tag == bits && isStatement (parts.map Value.tag) && parts.contains method
    | _ => false
  | _ => false

/-- Every certificate of a file can be used.  A file without any is fine too. -/
def areUsable (file : List UInt8) : Bool :=
  match Armour.blocks? file with
  | none => false
  | some blocks =>
    (blocks.filter fun b => b.label == Armour.certificate).all fun b => isShaped b.bytes

end FirmwareCatalog.Certificate
