/-
**Punycode.**

A label of a host name that has characters beyond ASCII is written in ASCII: first its ASCII
characters in order, then, after a hyphen if there were any, one number for every other character, in
the order of the characters.  A number says how far the insertion of the character lies from the
insertion before, counted over all places and all characters between.  Numbers are written with
digits of base 36, the least significant first, and a threshold that depends on the numbers so far
tells the last digit of each.

Main definitions:

* `Punycode.encode` — the ASCII form of a label;
* `Punycode.decode?` — the label of an ASCII form.
-/

set_option relaxedAutoImplicit false
set_option autoImplicit false

namespace FirmwareCatalog.Punycode

/-! ### Digits and thresholds -/

def digit (n : Nat) : Char := Char.ofNat (if n < 26 then n + 'a'.toNat else n - 26 + '0'.toNat)

/-- The value of a digit. -/
def value? (c : Char) : Option Nat :=
  if 'a' ≤ c ∧ c ≤ 'z' then some (c.toNat - 'a'.toNat)
  else if 'A' ≤ c ∧ c ≤ 'Z' then some (c.toNat - 'A'.toNat)
  else if '0' ≤ c ∧ c ≤ '9' then some (c.toNat - '0'.toNat + 26)
  else none

def threshold (bias k : Nat) : Nat := max 1 (min 26 (k - bias))

def settle (delta k : Nat) : Nat × Nat :=
  if h : 455 < delta then settle (delta / 35) (k + 36) else (delta, k)
termination_by delta
decreasing_by exact Nat.div_lt_self (by omega) (by omega)

def adapt (delta count : Nat) (first : Bool) : Nat :=
  let d := if first then delta / 700 else delta / 2
  let (d, k) := settle (d + d / count) 0
  k + 36 * d / (d + 38)

theorem threshold_bounds (bias k : Nat) : 1 ≤ threshold bias k ∧ threshold bias k ≤ 26 := by
  unfold threshold
  omega

/-! ### Encoding -/

/-- The digits of a number. -/
def digits (bias k n : Nat) : List Char :=
  let t := threshold bias k
  if n < t then [digit n]
  else digit (t + (n - t) % (36 - t)) :: digits bias (k + 36) ((n - t) / (36 - t))
termination_by n
decreasing_by
  have bounds := threshold_bounds bias k
  have : (n - threshold bias k) / (36 - threshold bias k) ≤ n - threshold bias k := Nat.div_le_self _ _
  omega

/-- The state between two numbers: how many characters are written, the distance so far, the bias,
and whether a number has been written. -/
structure Progress where
  written : Nat
  delta : Nat
  bias : Nat
  first : Bool
  output : List Char

/-- The step over one character of the label while the characters with the code point `n` are
inserted. -/
def Progress.over (n : Nat) (p : Progress) (c : Char) : Progress :=
  if c.toNat < n then { p with delta := p.delta + 1 }
  else if c.toNat = n then
    ⟨p.written + 1, 0, adapt p.delta (p.written + 1) p.first, false,
      p.output ++ digits p.bias 36 p.delta⟩
  else p

/-- The insertions of the given code points, which ascend; `n` is the least one that may come. -/
def insertions (label : List Char) : List Nat → Nat → Progress → List Char
  | [], _, p => p.output
  | m :: rest, n, p =>
    let p := { p with delta := p.delta + (m - n) * (p.written + 1) }
    let p := label.foldl (Progress.over m) p
    insertions label rest (m + 1) { p with delta := p.delta + 1 }

/-- The ASCII form of a label. -/
def encode (label : List Char) : List Char :=
  let basic := label.filter fun c => c.toNat < 0x80
  let others := ((label.filter fun c => 0x80 ≤ c.toNat).map Char.toNat).mergeSort.eraseDups
  (if basic.isEmpty then [] else basic ++ ['-']) ++
    insertions label others 0x80 ⟨basic.length, 0, 72, true, []⟩

/-! ### Decoding -/

/-- A number, read at the given weight, and the text after it. -/
def number? (bias k weight : Nat) : List Char → Option (Nat × List Char)
  | [] => none
  | c :: rest => do
    let d ← value? c
    let t := threshold bias k
    if d < t then some (d * weight, rest)
    else
      let (n, after) ← number? bias (k + 36) (weight * (36 - t)) rest
      some (d * weight + n, after)

def insertAt {α : Type} (a : α) : Nat → List α → List α
  | 0, as => a :: as
  | _, [] => [a]
  | n + 1, b :: bs => b :: insertAt a n bs

/-- A number leaves less text than there was. -/
theorem length_lt_of_number? {bias k weight n : Nat} {s rest : List Char}
    (h : number? bias k weight s = some (n, rest)) : rest.length < s.length := by
  induction s generalizing k weight n with
  | nil => simp [number?] at h
  | cons c r ih =>
    simp only [number?, Option.bind_eq_bind] at h
    rcases hv : value? c with _ | d
    · simp [hv] at h
    · simp only [hv, Option.bind_some] at h
      split at h
      · simp only [Option.some.injEq, Prod.mk.injEq] at h
        simp [← h.2]
      · rcases hn : number? bias (k + 36) (weight * (36 - threshold bias k)) r with _ | ⟨m, after⟩
        · simp [hn] at h
        · simp only [hn, Option.bind_some, Option.some.injEq, Prod.mk.injEq] at h
          obtain ⟨-, rfl⟩ := h
          exact Nat.lt_succ_of_lt (ih hn)

/-- The label after the insertions that a text stands for: `n` is the code point and `i` the place of
the last one, counted from the place after it. -/
def inserted? (n i bias : Nat) (label : List Char) (s : List Char) : Option (List Char) :=
  if s.isEmpty then some label
  else
    match h : number? bias 36 1 s with
    | none => none
    | some (delta, rest) =>
      let count := label.length + 1
      let n' := n + (i + delta) / count
      let i' := (i + delta) % count
      if n' < 0x110000 ∧ ¬(0xD800 ≤ n' ∧ n' < 0xE000) then
        inserted? n' (i' + 1) (adapt delta count (i == 0))
          (insertAt (Char.ofNat n') i' label) rest
      else none
termination_by s.length
decreasing_by exact length_lt_of_number? h

/-- The label of an ASCII form: what stands before the last hyphen, with the insertions that follow.
A hyphen at the very start belongs to the insertions, where it has no meaning. -/
def decode? (s : List Char) : Option (List Char) :=
  let tail := (s.reverse.takeWhile (· ≠ '-')).reverse
  let front := s.take (s.length - tail.length - 1)
  if front.isEmpty then inserted? 0x80 0 72 [] s
  else inserted? 0x80 0 72 front tail

end FirmwareCatalog.Punycode
