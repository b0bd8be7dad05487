/-
**Written strings are read back.**

A written string has a quote, its characters, some of them escaped, and another quote.  Reading goes
over it character by character and counts the characters of an escape as one, so what has to be shown
of each character is that its written form is read as that character and left behind as a whole.  The
reader that only looks for the end of a string agrees.

Main results:

* `Json.textOf_escapeChar`, `Json.skipString_escapeChar` — one character, with anything behind it;
* `Json.readString_escaped` — **a written string is read back**, and nothing behind it is touched.
-/
import FirmwareCatalog.Json.Basic
import FirmwareCatalog.Json.Reader

set_option relaxedAutoImplicit false
set_option autoImplicit false

namespace FirmwareCatalog.Json

/-! ### Hexadecimal digits -/

theorem hexValue?_hexDigit (n : Nat) : hexValue? (hexDigit n) = some (n % 16) := by
  have hall : ∀ d < 16, hexValue? (Nat.digitChar d) = some d := by decide
  exact hall (n % 16) (Nat.mod_lt n (by decide))

theorem hexDigit_zero : hexDigit 0 = '0' := by decide

theorem utf8Size_hexDigit (n : Nat) : (hexDigit n).utf8Size = 1 := by
  have hall : ∀ d < 16, (Nat.digitChar d).utf8Size = 1 := by decide
  exact hall (n % 16) (Nat.mod_lt n (by decide))

theorem hexEscape_digits (a b c d : Nat) (rest : List Char) :
    hexEscape (hexDigit a :: hexDigit b :: hexDigit c :: hexDigit d :: rest) =
      .ok (a % 16 * 4096 + b % 16 * 256 + c % 16 * 16 + d % 16) := by
  have hsize : Utf8.size
      ((hexDigit a :: hexDigit b :: hexDigit c :: hexDigit d :: rest).take 4) = 4 := by
    simp [Utf8.size, utf8Size_hexDigit]
  simp only [hexEscape, hsize, hexValue?_hexDigit]
  rfl

/-- The escape of a control character is read as that character. -/
theorem unicodeEscape_control {c : Char} (h : c.toNat < 0x20) (rest : List Char) :
    unicodeEscape ('0' :: '0' :: hexDigit (c.toNat / 16) :: hexDigit c.toNat :: rest) =
      .ok (c, 5) := by
  have hdigits := hexEscape_digits 0 0 (c.toNat / 16) c.toNat rest
  have hvalue : 0 % 16 * 4096 + 0 % 16 * 256 + c.toNat / 16 % 16 * 16 + c.toNat % 16 = c.toNat := by
    omega
  rw [hvalue] at hdigits
  rw [hexDigit_zero] at hdigits
  have hlow : ¬ (0xDC00 ≤ c.toNat ∧ c.toNat ≤ 0xDFFF) := by omega
  have hplain : c.toNat < 0xD800 ∨ 0xDBFF < c.toNat := by omega
  simp only [unicodeEscape, hdigits, bind, Except.bind, if_neg hlow, if_pos hplain,
    Char.ofNat_toNat]

/-! ### Escapes -/

/-- A character stands for itself, or is written as a backslash and a code.  Both readers take the
code for an escape of exactly its length, and the one who reads it for the escape of the
character. -/
theorem escapeChar_cases (c : Char) :
    (escapeChar c = [c] ∧ c ≠ '"' ∧ c ≠ '\\' ∧ 0x20 ≤ c.toNat) ∨
      ∃ code, escapeChar c = '\\' :: code ∧ ∀ rest,
        escape (code ++ rest) = .ok (c, code.length) ∧
          escapeLength (code ++ rest) = .ok code.length := by
  have named : ∀ n, c.toNat = n → c = Char.ofNat n := by
    rintro n rfl
    exact (Char.ofNat_toNat c).symm
  unfold escapeChar
  split
  · rename_i h; subst h; exact Or.inr ⟨['"'], rfl, fun rest => ⟨rfl, rfl⟩⟩
  split
  · rename_i h; subst h; exact Or.inr ⟨['\\'], rfl, fun rest => ⟨rfl, rfl⟩⟩
  split
  · rename_i h; rw [named _ h]; exact Or.inr ⟨['b'], rfl, fun rest => ⟨rfl, rfl⟩⟩
  split
  · rename_i h; rw [named _ h]; exact Or.inr ⟨['t'], rfl, fun rest => ⟨rfl, rfl⟩⟩
  split
  · rename_i h; rw [named _ h]; exact Or.inr ⟨['n'], rfl, fun rest => ⟨rfl, rfl⟩⟩
  split
  · rename_i h; rw [named _ h]; exact Or.inr ⟨['f'], rfl, fun rest => ⟨rfl, rfl⟩⟩
  split
  · rename_i h; rw [named _ h]; exact Or.inr ⟨['r'], rfl, fun rest => ⟨rfl, rfl⟩⟩
  split
  · rename_i h
    refine Or.inr ⟨['u', '0', '0', hexDigit (c.toNat / 16), hexDigit c.toNat], rfl, fun rest => ?_⟩
    have hescape := unicodeEscape_control h rest
    have hdigits := hexEscape_digits 0 0 (c.toNat / 16) c.toNat rest
    rw [hexDigit_zero] at hdigits
    constructor
    · simp only [List.cons_append, List.nil_append, escape, if_true, hescape]
      rfl
    · simp only [List.cons_append, List.nil_append, escapeLength, if_true, hdigits]
      rfl
  · exact Or.inl ⟨rfl, by assumption, by assumption, by omega⟩

/-! ### Strings -/

theorem textOf_append (code rest : List Char) : textOf code.length (code ++ rest) = textOf 0 rest := by
  induction code with
  | nil => rfl
  | cons c code ih => simpa [textOf] using ih

theorem skipString_append (code rest : List Char) :
    skipString code.length (code ++ rest) = skipString 0 rest := by
  induction code with
  | nil => rfl
  | cons c code ih => simpa [skipString] using ih

/-- **A written character is read as that character**, with anything behind it. -/
theorem textOf_escapeChar (c : Char) (rest : List Char) :
    textOf 0 (escapeChar c ++ rest) = (textOf 0 rest).map (c :: ·) := by
  rcases escapeChar_cases c with ⟨hself, hquote, hslash, hvisible⟩ | ⟨code, hcode, hread⟩
  · have hcontrol : ¬ c.toNat < 0x20 := by omega
    simp only [hself, List.cons_append, List.nil_append, textOf, if_neg hquote, if_neg hslash,
      if_neg hcontrol]
  · have hquote : ('\\' : Char) ≠ '"' := by decide
    rw [hcode, List.cons_append]
    simp only [textOf, if_neg hquote, if_true, (hread rest).1, textOf_append]

/-- A written character is left behind as a whole. -/
theorem skipString_escapeChar (c : Char) (rest : List Char) :
    skipString 0 (escapeChar c ++ rest) = skipString 0 rest := by
  rcases escapeChar_cases c with ⟨hself, hquote, hslash, hvisible⟩ | ⟨code, hcode, hread⟩
  · have hcontrol : ¬ c.toNat < 0x20 := by omega
    simp only [hself, List.cons_append, List.nil_append, skipString, if_neg hquote, if_neg hslash,
      if_neg hcontrol]
  · have hquote : ('\\' : Char) ≠ '"' := by decide
    rw [hcode, List.cons_append]
    simp only [skipString, if_neg hquote, if_true, (hread rest).2, skipString_append]

theorem textOf_escaped (s rest : List Char) :
    textOf 0 (s.flatMap escapeChar ++ '"' :: rest) = .ok s := by
  induction s with
  | nil => simp [textOf]
  | cons c s ih =>
      rw [List.flatMap_cons, List.append_assoc, textOf_escapeChar, ih]
      rfl

theorem skipString_escaped (s rest : List Char) :
    skipString 0 (s.flatMap escapeChar ++ '"' :: rest) = .ok rest := by
  induction s with
  | nil => simp [skipString]
  | cons c s ih => rw [List.flatMap_cons, List.append_assoc, skipString_escapeChar, ih]

/-- **A written string is read back**, and what stands behind it is left. -/
theorem readString_escaped (s : String) (rest : List Char) :
    readString (s.toList.flatMap escapeChar ++ '"' :: rest) = ⟨.ok s, .ok rest⟩ := by
  rw [readString, textOf_escaped, skipString_escaped]
  simp [Except.map]

end FirmwareCatalog.Json
