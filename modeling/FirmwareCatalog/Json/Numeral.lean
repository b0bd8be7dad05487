/-
**Number literals.**

A literal is kept as its digits and understood only when a field asks for it.  An integer that fits
in 64 bits is exact.  Every other literal is a binary64 number, computed the way a reader does that
keeps as many leading digits as 64 bits hold, drops the rest, and then scales by a power of ten:
cheap, and not always the nearest number to the literal.

Main definitions:

* `Json.Numeral` — a literal and what follows it;
* `Json.Numeral.read` — the number that a literal stands for.
-/
import FirmwareCatalog.Json.Fault

set_option relaxedAutoImplicit false
set_option autoImplicit false

namespace FirmwareCatalog.Json

/-- The exponent of a literal: its sign, its digits, and the text from the digits on. -/
structure Exponent where
  negative : Bool
  digits : List Char
  start : List Char
  deriving DecidableEq, Repr

/-- A number literal and the text after it. -/
structure Numeral where
  negative : Bool
  whole : List Char
  fraction : Option (List Char)
  exponent : Option Exponent
  after : List Char
  deriving DecidableEq, Repr

def digitValue (c : Char) : Nat := c.toNat - '0'.toNat

def max64 : Nat := 0xFFFFFFFFFFFFFFFF

/-- The digits of a whole number as far as 64 bits hold them, and how many are dropped. -/
def leadingDigits : Nat → List Char → Nat × Nat
  | n, [] => (n, 0)
  | n, d :: ds =>
    if max64 < n * 10 + digitValue d then (n, ds.length + 1)
    else leadingDigits (n * 10 + digitValue d) ds

/-- The digits of a fraction appended as far as 64 bits hold them, and how many are. -/
def fractionDigits : Nat → List Char → Nat × Nat
  | n, [] => (n, 0)
  | n, d :: ds =>
    if max64 < n * 10 + digitValue d then (n, 0)
    else
      let (m, k) := fractionDigits (n * 10 + digitValue d) ds
      (m, k + 1)

/-- The value of an exponent, or the text after the digit at which it passes 31 bits. -/
def exponentValue : Nat → List Char → List Char → Except (List Char) Nat
  | n, [], _ => .ok n
  | n, d :: ds, rest =>
    if 0x7FFFFFFF < n * 10 + digitValue d then .error (rest.drop 1)
    else exponentValue (n * 10 + digitValue d) ds (rest.drop 1)

/-- A number scaled by a power of ten, one rounded step at a time: down by `10 ^ 308` as long as
the power is smaller than that, then once by what remains.  Nothing is the answer when the result
is too large.  The first argument bounds the number of steps. -/
def scale : Nat → Magnitude → Int → Option Magnitude
  | 0, x, _ => some x
  | n + 1, x, e =>
    if e.natAbs ≤ 308 then
      let power := Magnitude.ofDecimal 1 e.natAbs
      if 0 ≤ e then
        match x.mul power with
        | .infinite => none
        | y => some y
      else some (x.div power)
    else if x.isZero then some x
    else if 0 ≤ e then none
    else scale n (x.div (Magnitude.ofDecimal 1 308)) (e + 308)

namespace Numeral

def real (l : Numeral) (significand : Nat) (e : Int) : Except Fault Number :=
  match scale 8 (Magnitude.ofRatio significand 1) e with
  | some x => .ok (.real (.signed l.negative x))
  | none => .error ⟨.numberOutOfRange, .before l.after⟩

/-- The number that a literal stands for. -/
def read (l : Numeral) : Except Fault Number :=
  let (n, dropped) := leadingDigits 0 l.whole
  match l.fraction, l.exponent with
  | none, none =>
    if 0 < dropped then l.real n dropped
    else if l.negative then
      if n = 0 ∨ 0x8000000000000000 < n then l.real n 0 else .ok (.negative n)
    else .ok (.natural n)
  | fraction, exponent =>
    let (m, taken) := fractionDigits n (fraction.getD [])
    let start : Int := (dropped : Int) - (taken : Int)
    match exponent with
    | none => l.real m start
    | some e =>
      match exponentValue 0 e.digits e.start with
      | .ok k => l.real m (if e.negative then start - k else start + k)
      | .error rest =>
        if m ≠ 0 ∧ e.negative = false then .error ⟨.numberOutOfRange, .before rest⟩
        else .ok (.real (.signed l.negative .zero))

end Numeral

end FirmwareCatalog.Json
