/-
**Numeric addresses of hosts.**

An address of four bytes may be written with one to four numbers, in decimal, or in octal after a
`0`, or in hexadecimal after `0x`; the last number fills all the bytes that are left.  It is shown as
four decimal numbers.

An address of eight groups of sixteen bits is written in hexadecimal.  Once, two colons may stand
for one or more groups of zeros, and the last two groups may be written as four decimal bytes.  It is
shown with the first longest run of at least two zero groups left out.

Main definitions:

* `Ipv4`, `Ipv4.parse?`, `Ipv4.render` — addresses of four bytes;
* `Ipv4.isMeant` — a name that can only be such an address;
* `Ipv6`, `Ipv6.parse?`, `Ipv6.render` — addresses of eight groups.
-/
import FirmwareCatalog.Text.Pieces

set_option relaxedAutoImplicit false
set_option autoImplicit false

namespace FirmwareCatalog

/-! ### Four bytes -/

/-- An address of four bytes. -/
structure Ipv4 where
  value : UInt32
  deriving DecidableEq, Repr

namespace Ipv4

/-- One of the numbers of an address.  A `0` or `0x` with nothing after it is zero. -/
def number? (s : List Char) : Option Nat :=
  match s with
  | [] => none
  | ['0'] => some 0
  | '0' :: 'x' :: r => if r.isEmpty then some 0 else Text.ofDigits? 16 r
  | '0' :: 'X' :: r => if r.isEmpty then some 0 else Text.ofDigits? 16 r
  | '0' :: r => Text.ofDigits? 8 r
  | s => Text.ofDigits? 10 s

def parts (s : List Char) : List (List Char) :=
  let ps := Text.splitAt '.' s
  if 1 < ps.length ∧ ps.getLast? = some [] then ps.dropLast else ps

/-- The name can only be an address: its last part is a number, or at least all digits. -/
def isMeant (s : List Char) : Bool :=
  match (parts s).getLast? with
  | none => false
  | some last => (number? last).isSome || (Text.ofDigits? 10 last).isSome

/-- The value of numbers; all but the last one are bytes, and the last one fills the rest. -/
def combine (numbers : List Nat) : Option Nat :=
  match numbers.getLast? with
  | none => none
  | some last =>
    let bytes := numbers.dropLast
    if 3 < bytes.length ∨ Nat.pow 256 (4 - bytes.length) ≤ last ∨ bytes.any (255 < ·) then none
    else some (bytes.foldl (fun n b => n * 256 + b) 0 * Nat.pow 256 (4 - bytes.length) + last)

/-- The address that a name stands for. -/
def parse? (s : List Char) : Option Ipv4 := do
  let numbers ← (parts s).mapM number?
  let value ← combine numbers
  some ⟨UInt32.ofNat value⟩

/-- The four numbers with dots between them. -/
def render (a : Ipv4) : List Char :=
  let n := a.value.toNat
  ['.'].intercalate ([n / 0x1000000, n / 0x10000 % 256, n / 0x100 % 256, n % 256].map (Nat.toDigits 10))

end Ipv4

/-! ### Eight groups -/

/-- An address of eight groups of sixteen bits. -/
structure Ipv6 where
  groups : List UInt16
  groups_length : groups.length = 8
  deriving DecidableEq

namespace Ipv6

def group? (s : List Char) : Option Nat := if 4 < s.length then none else Text.ofDigits? 16 s

/-- A decimal byte without zeros before it. -/
def byte? (s : List Char) : Option Nat :=
  if s.head? = some '0' ∧ s ≠ ['0'] then none
  else
    match Text.ofDigits? 10 s with
    | some n => if n < 256 then some n else none
    | none => none

def dotted? (s : List Char) : Option (List Nat) :=
  match (Text.splitAt '.' s).mapM byte? with
  | some [a, b, c, d] => some [a * 256 + b, c * 256 + d]
  | _ => none

/-- Groups with colons between them; the last ones may be four decimal bytes where that is allowed. -/
def groups? (dotted : Bool) (s : List Char) : Option (List Nat) :=
  if s.isEmpty then some []
  else
    let ps := Text.splitAt ':' s
    match ps.getLast? with
    | none => none
    | some last =>
      if dotted && last.contains '.' then do
        let front ← ps.dropLast.mapM group?
        let back ← dotted? last
        some (front ++ back)
      else ps.mapM group?

def splitAtGap : List Char → Option (List Char × List Char)
  | [] => none
  | ':' :: ':' :: r => some ([], r)
  | c :: r => (splitAtGap r).map fun (a, b) => (c :: a, b)

def ofGroups? (gs : List Nat) : Option Ipv6 :=
  if h : (gs.map UInt16.ofNat).length = 8 then some ⟨gs.map UInt16.ofNat, h⟩ else none

/-- The address that a text stands for. -/
def parse? (s : List Char) : Option Ipv6 :=
  match splitAtGap s with
  | none => do ofGroups? (← groups? true s)
  | some (left, right) => do
    let a ← groups? false left
    let b ← groups? true right
    if 7 < a.length + b.length then none
    else ofGroups? (a ++ List.replicate (8 - a.length - b.length) 0 ++ b)

/-- How many zero groups there are at each place from here on. -/
def zeroRuns : List UInt16 → List Nat
  | [] => []
  | g :: gs =>
    let rest := zeroRuns gs
    (if g = 0 then rest.head?.getD 0 + 1 else 0) :: rest

def longestRun (gs : List UInt16) : Nat × Nat :=
  let runs := zeroRuns gs
  let longest := runs.foldl max 0
  ((runs.findIdx? (· == longest)).getD 0, longest)

def renderGroups (gs : List UInt16) : List Char :=
  [':'].intercalate (gs.map fun g => Nat.toDigits 16 g.toNat)

/-- The address with its longest run of zero groups left out. -/
def render (a : Ipv6) : List Char :=
  let (start, length) := longestRun a.groups
  if length < 2 then renderGroups a.groups
  else
    renderGroups (a.groups.take start) ++ [':', ':'] ++
      renderGroups (a.groups.drop (start + length))

end Ipv6

end FirmwareCatalog
