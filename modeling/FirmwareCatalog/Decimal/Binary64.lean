/-
**Binary64 numbers, exactly.**

A number that is not an integer only ever shows up in an error message, but there it has to be the
number that 64-bit binary arithmetic would hold.  The module keeps such a number as a mantissa and
an exponent, and computes in natural numbers: every operation is the exact result rounded once, to
the nearest representable number and to the even one of two that are equally near.

Main definitions:

* `Magnitude` — a nonnegative number, `mantissa * 2 ^ exponent` or infinite;
* `Magnitude.ofRatio` — the nearest magnitude to a quotient of natural numbers;
* `Magnitude.ofDecimal` — the nearest magnitude to `digits * 10 ^ exponent`;
* `Magnitude.mul`, `Magnitude.div` — rounded product and quotient;
* `Binary64` — a magnitude with a sign, or not a number.
-/

set_option relaxedAutoImplicit false
set_option autoImplicit false

namespace FirmwareCatalog

/-- A nonnegative binary64 number.  A finite one is `mantissa * 2 ^ exponent` with a mantissa below
`2 ^ 53` and an exponent from `-1074` on. -/
inductive Magnitude where
  | finite (mantissa : Nat) (exponent : Int)
  | infinite
  deriving DecidableEq, Repr

/-- A binary64 number: a signed magnitude, or not a number. -/
inductive Binary64 where
  | signed (negative : Bool) (magnitude : Magnitude)
  | nan
  deriving DecidableEq, Repr

def roundHalfEven (num den : Nat) : Nat :=
  let q := num / den
  let r := num % den
  if den < 2 * r ∨ (2 * r = den ∧ q % 2 = 1) then q + 1 else q

namespace Magnitude

def zero : Magnitude := .finite 0 (-1074)

def scaledBy (num den : Nat) (e : Int) : Nat × Nat :=
  if 0 ≤ e then (num, den * Nat.pow 2 e.toNat) else (num * Nat.pow 2 (-e).toNat, den)

/-- The nearest magnitude to `num / den`, for a positive denominator.  The exponent is the least
one, from `-1074` on, at which the quotient has at most 53 bits before the point. -/
def ofRatio (num den : Nat) : Magnitude :=
  if num = 0 then zero
  else
    let guess : Int := max ((num.log2 : Int) - (den.log2 : Int) - 53) (-1074)
    let whole := (scaledBy num den guess).1 / (scaledBy num den guess).2
    let e := if 0x20000000000000 ≤ whole then guess + 1 else guess
    let m := roundHalfEven (scaledBy num den e).1 (scaledBy num den e).2
    let (m, e) := if m = 0x20000000000000 then (0x10000000000000, e + 1) else (m, e)
    if 971 < e then infinite else .finite m e

/-- The nearest magnitude to `digits * 10 ^ exponent`.  Powers of ten far outside the range are
decided by the number of digits alone. -/
def ofDecimal (digits : Nat) (exponent : Int) : Magnitude :=
  if digits = 0 then zero
  else
    let top := exponent + ((Nat.toDigits 10 digits).length : Int)
    if 400 < top then infinite
    else if top < -400 then zero
    else if 0 ≤ exponent then ofRatio (digits * Nat.pow 10 exponent.toNat) 1
    else ofRatio digits (Nat.pow 10 (-exponent).toNat)

/-- The rounded product. -/
def mul : Magnitude → Magnitude → Magnitude
  | .finite m e, .finite n f =>
    let s := scaledBy (m * n) 1 (-(e + f))
    ofRatio s.1 s.2
  | _, _ => infinite

/-- The rounded quotient by a number that is not zero. -/
def div : Magnitude → Magnitude → Magnitude
  | .finite m e, .finite n f =>
    let s := scaledBy m n (f - e)
    ofRatio s.1 s.2
  | .finite _ _, .infinite => zero
  | .infinite, _ => infinite

def isZero : Magnitude → Bool
  | .finite m _ => m == 0
  | .infinite => false

end Magnitude

end FirmwareCatalog
