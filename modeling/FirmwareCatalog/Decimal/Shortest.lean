/-
**The shortest decimal of a binary64 number.**

Of all decimals that read back as a given number the one with the fewest digits is written, and of
several with as few the nearest.  For one digit, two digits, and so on up to seventeen, the two
neighbours of the number on the grid of decimals with so many significant digits are tested in
exact arithmetic; the first grid with a hit wins.

How the digits are laid out is a record of decisions, `Layout`: error messages about JSON texts and
those about settings lay out the same digits differently.

Main definitions:

* `Shortest.digits` — the shortest decimal of a finite magnitude;
* `Layout`, `Layout.render` — the text of a binary64 number.
-/
import FirmwareCatalog.Decimal.Binary64

set_option relaxedAutoImplicit false
set_option autoImplicit false

namespace FirmwareCatalog

/-- The number `digits * 10 ^ exponent`. -/
structure Decimal where
  digits : Nat
  exponent : Int
  deriving DecidableEq, Repr

namespace Shortest

def ratio (m : Nat) (e : Int) : Nat × Nat :=
  if 0 ≤ e then (m * Nat.pow 2 e.toNat, 1) else (m, Nat.pow 2 (-e).toNat)

/-- `d * 10 ^ k` lies among the numbers that round to `m * 2 ^ e`.  They reach half a step up and
half a step down, a quarter down where the steps below are half as long, and the ends belong to
them exactly when the mantissa is even. -/
def readsBack (m : Nat) (e : Int) (d : Nat) (k : Int) : Bool :=
  let low := if m = 0x10000000000000 ∧ -1074 < e then 4 * m - 1 else 4 * m - 2
  let (n, den) := if 0 ≤ k then (d * Nat.pow 10 k.toNat, 1) else (d, Nat.pow 10 (-k).toNat)
  let (lo, bot) := ratio low (e - 2)
  let (hi, bot') := ratio (4 * m + 2) (e - 2)
  if m % 2 = 0 then lo * den ≤ n * bot && n * bot' ≤ hi * den
  else lo * den < n * bot && n * bot' < hi * den

def leading (num den : Nat) : Int :=
  ((Nat.toDigits 10 (num * Nat.pow 10 400 / den)).length : Int) - 401

/-- The decimal without zeros at its end; the first argument bounds the number of digits. -/
def strip : Nat → Decimal → Decimal
  | 0, d => d
  | n + 1, d =>
    if d.digits ≠ 0 ∧ d.digits % 10 = 0 then strip n ⟨d.digits / 10, d.exponent + 1⟩ else d

/-- The better of the two neighbours of `m * 2 ^ e` on the grid of step `10 ^ k`, if one of them
reads back: the nearer of two, the even one of two that are equally near. -/
def onGrid (m : Nat) (e : Int) (k : Int) : Option Nat :=
  let (num, den) := ratio m e
  let (num, den) :=
    if 0 ≤ k then (num, den * Nat.pow 10 k.toNat) else (num * Nat.pow 10 (-k).toNat, den)
  let d := num / den
  let r := num % den
  match readsBack m e d k, readsBack m e (d + 1) k with
  | true, true => if 2 * r < den ∨ (2 * r = den ∧ d % 2 = 0) then some d else some (d + 1)
  | true, false => some d
  | false, true => some (d + 1)
  | false, false => none

/-- The first grid with a hit, from the one with `18 - n` significant digits on. -/
def search (m : Nat) (e : Int) (top : Int) : Nat → Decimal
  | 0 => ⟨m, e⟩
  | n + 1 =>
    let k := top - (17 - (n + 1 : Int))
    match onGrid m e k with
    | some d => strip 17 ⟨d, k⟩
    | none => search m e top n

/-- The shortest decimal that reads back as `m * 2 ^ e`. -/
def digits (m : Nat) (e : Int) : Decimal :=
  if m = 0 then ⟨0, 0⟩
  else
    let (num, den) := ratio m e
    search m e (leading num den) 17

end Shortest

/-- How the text of a number is laid out. -/
structure Layout where
  /-- The exponents of the leading digit between which a number is written without an exponent;
  nothing means always. -/
  positional : Option (Int × Int)
  /-- A whole number ends in `.0`. -/
  pointZero : Bool
  deriving Repr

namespace Layout

/-- A decimal without an exponent. -/
def fixed (l : Layout) (ds : List Char) (k : Int) : List Char :=
  if 0 ≤ k then ds ++ List.replicate k.toNat '0' ++ (if l.pointZero then ['.', '0'] else [])
  else
    let point := (ds.length : Int) + k
    if 0 < point then ds.take point.toNat ++ '.' :: ds.drop point.toNat
    else '0' :: '.' :: List.replicate (-point).toNat '0' ++ ds

/-- A decimal with one digit before the point, and the exponent with its sign and at least two
digits. -/
def scientific (ds : List Char) (lead : Int) : List Char :=
  let tail := ds.drop 1
  let es := Nat.toDigits 10 lead.natAbs
  ds.take 1 ++ (if tail.isEmpty then [] else '.' :: tail) ++ 'e' ::
    (if lead < 0 then '-' else '+') :: (if es.length < 2 then '0' :: es else es)

/-- The text of a decimal. -/
def decimal (l : Layout) (d : Decimal) : List Char :=
  let ds := Nat.toDigits 10 d.digits
  let lead := d.exponent + (ds.length : Int) - 1
  match l.positional with
  | none => l.fixed ds d.exponent
  | some (low, high) =>
    if low ≤ lead ∧ lead ≤ high then l.fixed ds d.exponent else scientific ds lead

/-- The text of a number. -/
def render (l : Layout) : Binary64 → String
  | .nan => "NaN"
  | .signed negative magnitude =>
    let body := match magnitude with
      | .infinite => ['i', 'n', 'f']
      | .finite m e => l.decimal (Shortest.digits m e)
    String.ofList (if negative then '-' :: body else body)

end Layout

end FirmwareCatalog
