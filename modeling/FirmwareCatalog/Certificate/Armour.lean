/-
**Bytes in text files.**

Certificates come in text files, as blocks of base 64 digits.  A block starts at a line with five
hyphens, `BEGIN`, a label and five hyphens, and goes on up to a line that starts with the same label
after `END`.  What stands outside the blocks is skipped, and so are blocks with a label that nobody
knows.

Main definitions:

* `Base64.decode?` — the bytes of base 64 digits;
* `Armour.blocks?` — the blocks of a file with their labels, unless one of them is broken.
-/
import FirmwareCatalog.Text.Pieces

set_option relaxedAutoImplicit false
set_option autoImplicit false

namespace FirmwareCatalog

/-! ### Base 64 -/

namespace Base64

/-- The value of a digit. -/
def value? (c : Char) : Option Nat :=
  if 'A' ≤ c ∧ c ≤ 'Z' then some (c.toNat - 'A'.toNat)
  else if 'a' ≤ c ∧ c ≤ 'z' then some (c.toNat - 'a'.toNat + 26)
  else if '0' ≤ c ∧ c ≤ '9' then some (c.toNat - '0'.toNat + 52)
  else if c = '+' then some 62
  else if c = '/' then some 63
  else none

def isBlank (c : Char) : Bool := c == ' ' || (9 ≤ c.toNat && c.toNat ≤ 13)

/-- The bytes of groups of four digits; the bits that padding leaves over are zero. -/
def groups? : List Char → Option (List UInt8)
  | [] => some []
  | [a, b, '=', '='] => do
    let n := (← value? a) * 64 + (← value? b)
    if n % 16 = 0 then some [UInt8.ofNat (n / 16)] else none
  | [a, b, c, '='] => do
    let n := ((← value? a) * 64 + (← value? b)) * 64 + (← value? c)
    if n % 4 = 0 then some [UInt8.ofNat (n / 1024), UInt8.ofNat (n / 4)] else none
  | a :: b :: c :: d :: rest => do
    let n := (((← value? a) * 64 + (← value? b)) * 64 + (← value? c)) * 64 + (← value? d)
    let bytes ← groups? rest
    some (UInt8.ofNat (n / 65536) :: UInt8.ofNat (n / 256) :: UInt8.ofNat n :: bytes)
  | _ => none

/-- The bytes of base 64 digits with blanks between them. -/
def decode? (s : List Char) : Option (List UInt8) := groups? (s.filter fun c => !isBlank c)

end Base64

/-! ### Blocks -/

namespace Armour

/-- A block with its label. -/
structure Block where
  label : List Char
  bytes : List UInt8
  deriving DecidableEq, Repr

def certificate : List Char := "CERTIFICATE".toList

def labels : List (List Char) :=
  certificate ::
    ["PUBLIC KEY", "RSA PRIVATE KEY", "PRIVATE KEY", "EC PRIVATE KEY", "X509 CRL",
      "CERTIFICATE REQUEST", "ECHCONFIG"].map String.toList

def hyphens : List Char := List.replicate 5 '-'

def opening : List Char := hyphens ++ "BEGIN ".toList

def closing (label : List Char) : List Char := hyphens ++ "END ".toList ++ label ++ hyphens

/-- The lines of a file; a line ends with a line feed or a carriage return. -/
def lines (s : List Char) : List (List Char) := Text.splitWhere (fun c => c == '\n' || c == '\r') s

/-- The label in the first line of a block.  Exactly five hyphens end the line, blanks aside. -/
def label? (line : List Char) : Option (List Char) :=
  let back := line.reverse.dropWhile (· == ' ')
  let tail := back.takeWhile fun c => c == '-' || c == ' '
  if tail.count '-' = 5 then
    some (((back.drop (tail.reverse.dropWhile (· == ' ')).length).reverse).drop opening.length)
  else none

/-- The blocks of lines, unless one of them is broken.  The first argument is the label of the block
that the lines are in, and what stands in it so far. -/
def collect : Option (List Char × List Char) → List (List Char) → Option (List Block)
  | none, [] => some []
  | some _, [] => none
  | inside, line :: rest =>
    if opening.isPrefixOf line then
      match label? line with
      | none => none
      | some label => collect (some (label, (inside.map (·.2)).getD [])) rest
    else
      match inside with
      | none => collect none rest
      | some (label, digits) =>
        if (closing label).isPrefixOf line then
          if labels.contains label then
            match Base64.decode? digits with
            | none => none
            | some bytes => (collect none rest).map (⟨label, bytes⟩ :: ·)
          else collect none rest
        else collect (some (label, digits ++ line)) rest

/-- The blocks of a file, unless one of them is broken.  Each byte counts as one character. -/
def blocks? (file : List UInt8) : Option (List Block) :=
  collect none (lines (file.map fun b => Char.ofNat b.toNat))

end Armour

end FirmwareCatalog
