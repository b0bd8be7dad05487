/-
**Decimal digits in front of something else.**

Numbers are read digit by digit up to the first character that is none.  Here is what that gives for
the digits of a natural number with something behind them: exactly these digits are taken, no zero
stands in front of them unless the number is zero, and their value is the number.

Main results:

* `Text.takeWhile_append_stop`, `Text.dropWhile_append_stop` — a run that ends where it should;
* `Text.reverse_takeWhile_ne` — the text behind the last of some sign;
* `Text.head?_toDigits_ne_zero` — no zero in front;
* `Text.ofDigits?_toDigits_base`, `Text.ofDigits?_toDigits` — their value is the number;
* `Text.le_ofDigitChars` — more digits never make a number smaller.
-/
import FirmwareCatalog.Text.Pieces

set_option relaxedAutoImplicit false
set_option autoImplicit false

namespace FirmwareCatalog.Text

/-! ### Runs of characters -/

/-- The text does not begin with a character of some kind. -/
def Stops (kind : Char → Bool) (s : List Char) : Prop := ∀ c ∈ s.head?, kind c = false

@[simp] theorem stops_nil (kind : Char → Bool) : Stops kind [] := by simp [Stops]

@[simp] theorem stops_cons (kind : Char → Bool) (c : Char) (s : List Char) :
    Stops kind (c :: s) ↔ kind c = false := by simp [Stops]

theorem Stops.take {kind : Char → Bool} {s : List Char} (h : Stops kind s) (n : Nat) :
    Stops kind (s.take n) := by
  intro c hc
  cases n with
  | zero => simp at hc
  | succ n => exact h c (by simpa [List.head?_take] using hc)

/-- A run in front of a text that does not go on with it is taken as a whole. -/
theorem takeWhile_append_stop {kind : Char → Bool} {run s : List Char}
    (hrun : ∀ c ∈ run, kind c = true) (hs : Stops kind s) : (run ++ s).takeWhile kind = run := by
  rw [List.takeWhile_append_of_pos hrun]
  cases s with
  | nil => simp
  | cons c s => simp [(stops_cons kind c s).1 hs]

/-- What is left behind such a run is the text behind it. -/
theorem dropWhile_append_stop {kind : Char → Bool} {run s : List Char}
    (hrun : ∀ c ∈ run, kind c = true) (hs : Stops kind s) : (run ++ s).dropWhile kind = s := by
  rw [List.dropWhile_append_of_pos hrun]
  cases s with
  | nil => rfl
  | cons c s => simp [(stops_cons kind c s).1 hs]

/-- The text behind the last of some sign. -/
theorem reverse_takeWhile_ne {sign : Char} {s : List Char} (h : sign ∉ s) (front : List Char) :
    ((front ++ sign :: s).reverse.takeWhile (· ≠ sign)).reverse = s ∧
      (s.reverse.takeWhile (· ≠ sign)).reverse = s := by
  have hrun : ∀ c ∈ s.reverse, decide (c ≠ sign) = true := by
    intro c hc
    refine decide_eq_true ?_
    rintro rfl
    exact h (List.mem_reverse.1 hc)
  have hreverse : (front ++ sign :: s).reverse = s.reverse ++ sign :: front.reverse := by simp
  constructor
  · rw [hreverse, takeWhile_append_stop hrun (by simp), List.reverse_reverse]
  · rw [← List.append_nil s.reverse, takeWhile_append_stop hrun (stops_nil _), List.reverse_reverse]

theorem not_mem_of_any {kind : Char → Bool} {cs : List Char} (hnone : cs.any kind = false) {c : Char}
    (h : kind c = true) : c ∉ cs := by
  intro hmem
  exact List.any_eq_false.1 hnone c hmem h

/-! ### The digits of a natural number -/

theorem isDigit_of_mem_toDigits {n : Nat} {c : Char} (h : c ∈ Nat.toDigits 10 n) :
    c.isDigit = true :=
  Nat.isDigit_of_mem_toDigits (by decide) (by decide) h

theorem exists_toDigits_cons (n : Nat) :
    ∃ d ds, Nat.toDigits 10 n = d :: ds ∧ d.isDigit = true := by
  obtain ⟨d, ds, hds⟩ := List.exists_cons_of_ne_nil (Nat.toDigits_ne_nil (n := n) (b := 10))
  exact ⟨d, ds, hds, isDigit_of_mem_toDigits (n := n) (by rw [hds]; exact List.mem_cons_self)⟩

/-- The digits of a number that is not zero do not begin with a zero. -/
theorem head?_toDigits_ne_zero {n : Nat} (h : n ≠ 0) : (Nat.toDigits 10 n).head? ≠ some '0' := by
  induction n using Nat.strongRecOn with
  | ind n ih =>
      rw [Nat.toDigits_eq_if (by decide)]
      split
      · rename_i hlt
        have hdigit : ∀ d < 10, d ≠ 0 → [Nat.digitChar d].head? ≠ some '0' := by decide
        exact hdigit n hlt h
      · rename_i hge
        -- the leading digit is that of a tenth of the number
        have hlead := ih (n / 10) (by omega) (by omega)
        obtain ⟨d, ds, hds⟩ := List.exists_cons_of_ne_nil (Nat.toDigits_ne_nil (n := n / 10) (b := 10))
        rw [hds] at hlead ⊢
        simpa using hlead

theorem digitValue?_digitChar {n : Nat} (h : n < 16) : digitValue? (Nat.digitChar n) = some n := by
  have hall : ∀ n < 16, digitValue? (Nat.digitChar n) = some n := by decide
  exact hall n h

/-- What a number is shown with are digits. -/
theorem exists_of_mem_toDigits {b n : Nat} (hb : 1 < b) {c : Char} (h : c ∈ Nat.toDigits b n) :
    ∃ d < b, c = Nat.digitChar d := by
  induction n using Nat.strongRecOn with
  | ind n ih =>
      rw [Nat.toDigits_eq_if hb] at h
      split at h
      · rename_i hlt
        exact ⟨n, hlt, List.mem_singleton.1 h⟩
      · rename_i hge
        rcases List.mem_append.1 h with h | h
        · exact ih (n / b) (Nat.div_lt_self (by omega) hb) h
        · exact ⟨n % b, Nat.mod_lt n (by omega), List.mem_singleton.1 h⟩

/-- **The value of the digits of a number is the number**, in any base that has digits. -/
theorem ofDigits?_toDigits_base {b : Nat} (hlow : 1 < b) (hhigh : b ≤ 16) (n : Nat) :
    ofDigits? b (Nat.toDigits b n) = some n := by
  have hne : (Nat.toDigits b n).isEmpty = false := by simp
  rw [ofDigits?, hne, if_neg Bool.false_ne_true]
  induction n using Nat.strongRecOn with
  | ind n ih =>
      rw [Nat.toDigits_eq_if hlow]
      split
      · rename_i hlt
        simp [digitValue?_digitChar (Nat.lt_of_lt_of_le hlt hhigh), hlt]
      · rename_i hge
        have hmod : n % b < b := Nat.mod_lt n (by omega)
        have hless : n / b < n := Nat.div_lt_self (by omega) hlow
        have hsum : n / b * b + n % b = n := Nat.div_add_mod' n b
        -- the last digit comes behind those of the rest of the number
        rw [List.foldlM_append, ih (n / b) hless (by simp)]
        simp [digitValue?_digitChar (Nat.lt_of_lt_of_le hmod hhigh), hmod, hsum]

/-- The value of the decimal digits of a number is the number. -/
theorem ofDigits?_toDigits (n : Nat) : ofDigits? 10 (Nat.toDigits 10 n) = some n :=
  ofDigits?_toDigits_base (by decide) (by decide) n

/-- More digits never make a number smaller. -/
theorem le_ofDigitChars (ds : List Char) (n : Nat) : n ≤ Nat.ofDigitChars 10 ds n := by
  induction ds generalizing n with
  | nil => simp
  | cons d ds ih =>
      rw [Nat.ofDigitChars_cons]
      have hstep := ih (10 * n + (d.toNat - '0'.toNat))
      omega

end FirmwareCatalog.Text
