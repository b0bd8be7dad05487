/-
**Integers in documents.**

An integer is written by its digits, after a minus sign if it is negative.  A reader might take them
for the beginning of a date or of a number with a fraction if anything but the end of the line came
after them.  At the end of a line they are read as the integer, however large it is, by the reader
that knows no bound, and so by the reader of documents exactly if the integer fits.

Main results:

* `Text.toList_toString` — how an integer is written;
* `Toml.unbounded?_literal`, `Toml.valueInWith?_literal` — **an integer at the end of a line**;
* `Toml.valueIn?_toDigits` — one that fits, without a sign.
-/
import FirmwareCatalog.Proofs.Text.Digits
import FirmwareCatalog.Proofs.Toml.Unbounded

set_option relaxedAutoImplicit false
set_option autoImplicit false

namespace FirmwareCatalog

/-! ### How integers are written -/

/-- An integer is written by its digits, after a minus sign if it is negative. -/
theorem Text.toList_toString (n : Int) : (toString n).toList =
    if n < 0 then '-' :: Nat.toDigits 10 n.natAbs else Nat.toDigits 10 n.natAbs := by
  cases n with
  | ofNat n =>
      have hnonneg : ¬ Int.ofNat n < 0 := Int.not_lt.2 (Int.natCast_nonneg n)
      rw [if_neg hnonneg, show toString (Int.ofNat n) = toString n from rfl]
      simp
  | negSucc n =>
      have hsigned : toString (Int.negSucc n) = "-" ++ toString (n + 1) := rfl
      rw [if_pos (Int.negSucc_lt_zero n), hsigned]
      simp

def Text.literalChars : List Char := '-' :: (List.range 10).map Nat.digitChar

/-- An integer is written with them. -/
theorem Text.mem_literalChars {n : Int} {c : Char} (h : c ∈ (toString n).toList) :
    c ∈ literalChars := by
  have hdigit (hc : c ∈ Nat.toDigits 10 n.natAbs) : c ∈ literalChars := by
    obtain ⟨d, hd, rfl⟩ := exists_of_mem_toDigits (by decide) hc
    exact List.mem_cons_of_mem _ (List.mem_map_of_mem (List.mem_range.2 hd))
  rw [toList_toString] at h
  split at h
  · rcases List.mem_cons.1 h with rfl | h
    · exact List.mem_cons_self
    · exact hdigit h
  · exact hdigit h

theorem Text.exists_toString_cons (n : Int) :
    ∃ c s, (toString n).toList = c :: s ∧ c ∈ literalChars := by
  obtain ⟨d, ds, hds, -⟩ := exists_toDigits_cons n.natAbs
  have hcons : ∃ c s, (toString n).toList = c :: s := by
    rw [toList_toString, hds]
    split
    · exact ⟨_, _, rfl⟩
    · exact ⟨_, _, rfl⟩
  obtain ⟨c, s, hs⟩ := hcons
  exact ⟨c, s, hs, mem_literalChars (n := n) (by rw [hs]; exact List.mem_cons_self)⟩

namespace Toml

/-! ### Digits in front of the end of a line -/

theorem value_toDigits (n : Nat) : value 10 (Nat.toDigits 10 n) = n := by
  rw [value, Text.ofDigits?_toDigits, Option.getD_some]

section Digits

variable {ds : List Char} (hds : ∀ c ∈ ds, c.isDigit = true) (rest : List Char)

include hds

/-- All digits are taken. -/
theorem digits_line : digits Char.isDigit (ds ++ '\n' :: rest) = (ds, '\n' :: rest) := by
  induction ds with
  | nil => rfl
  | cons d ds ih =>
      have hd : d.isDigit = true := hds d List.mem_cons_self
      have hrest := ih fun c hc => hds c (List.mem_cons_of_mem _ hc)
      have hscore : d ≠ '_' := by
        rintro rfl
        cases hd
      rw [List.cons_append, digits]
      · simp [hd, hrest]
      · rintro c r rfl
        exact absurd rfl hscore

/-- What is behind so many digits is digits and the end of the line. -/
theorem fixed?_line {count n : Nat} {r : List Char}
    (h : fixed? count (ds ++ '\n' :: rest) = some (n, r)) :
    ∃ ds', r = ds' ++ '\n' :: rest ∧ ∀ c ∈ ds', c.isDigit = true := by
  unfold fixed? at h
  dsimp only at h
  obtain ⟨⟨hlen, hall⟩, h⟩ := Option.ite_none_right_eq_some.1 h
  cases h
  have hcount : count ≤ ds.length := by
    refine Nat.le_of_not_lt fun hlarge => ?_
    have hline : '\n' ∈ (ds ++ '\n' :: rest).take count := by
      rw [List.take_append, List.mem_append]
      refine Or.inr ?_
      obtain ⟨k, hk⟩ : ∃ k, count - ds.length = k + 1 := ⟨count - ds.length - 1, by omega⟩
      simp [hk]
    have hdigit := List.all_eq_true.1 hall '\n' hline
    cases hdigit
  refine ⟨ds.drop count, ?_, fun c hc => hds c (List.mem_of_mem_drop hc)⟩
  rw [List.drop_append_of_le_length hcount]

/-- No separator follows. -/
theorem character?_line {c : Char} (hdigit : c.isDigit = false) (hline : c ≠ '\n') :
    character? c (ds ++ '\n' :: rest) = none := by
  cases ds with
  | nil => simp [character?, hline.symm]
  | cons d ds =>
      have hd : d.isDigit = true := hds d List.mem_cons_self
      have hne : d ≠ c := by
        rintro rfl
        rw [hd] at hdigit
        cases hdigit
      simp [character?, hne]

/-- Digits are no date and no time. -/
theorem date?_line : date? (ds ++ '\n' :: rest) = none := by
  have hday : day? (ds ++ '\n' :: rest) = none := by
    unfold day?
    cases hfixed : fixed? 4 (ds ++ '\n' :: rest) with
    | none => rfl
    | some found =>
        obtain ⟨n, r⟩ := found
        obtain ⟨ds', rfl, hds'⟩ := fixed?_line hds rest hfixed
        simp [character?_line hds' rest (c := '-') rfl (by decide)]
  have htime : time? (ds ++ '\n' :: rest) = none := by
    unfold time? upTo?
    cases hfixed : fixed? 2 (ds ++ '\n' :: rest) with
    | none => rfl
    | some found =>
        obtain ⟨n, r⟩ := found
        obtain ⟨ds', rfl, hds'⟩ := fixed?_line hds rest hfixed
        by_cases hbound : n ≤ 23
        · simp [hbound, character?_line hds' rest (c := ':') rfl (by decide)]
        · simp [hbound]
  rw [date?, hday, htime]

end Digits

/-! ### Whole numbers without a sign -/

section Numbers

variable (n : Nat) (rest : List Char)

/-- The digits of a number are taken as a whole number's. -/
theorem wholeDigits?_line :
    wholeDigits? (Nat.toDigits 10 n ++ '\n' :: rest) = some (Nat.toDigits 10 n, '\n' :: rest) := by
  have hall : ∀ c ∈ Nat.toDigits 10 n, c.isDigit = true := fun c => Text.isDigit_of_mem_toDigits
  have hdigits := digits_line hall rest
  by_cases hn : n = 0
  · subst hn
    rfl
  · have hzero := Text.head?_toDigits_ne_zero hn
    obtain ⟨d, ds, hds, hd⟩ := Text.exists_toDigits_cons n
    rw [hds] at hdigits hzero ⊢
    rw [List.cons_append] at hdigits ⊢
    rw [wholeDigits?]
    · simp [digits?, hd, hdigits]
    · rintro r h
      obtain rfl : d = '0' := (List.cons.inj h).1
      simp at hzero

theorem sign_cons_of_isDigit {d : Char} (hd : d.isDigit = true) (s : List Char) :
    sign (d :: s) = (false, d :: s) := by
  rw [sign]
  · rintro r h
    obtain rfl : d = '-' := (List.cons.inj h).1
    cases hd
  · rintro r h
    obtain rfl : d = '+' := (List.cons.inj h).1
    cases hd

theorem word?_line (negative : Bool) :
    word? negative (Nat.toDigits 10 n ++ '\n' :: rest) = none := by
  obtain ⟨d, ds, hds, hd⟩ := Text.exists_toDigits_cons n
  rw [hds, List.cons_append, word?]
  · rintro r h
    obtain rfl : d = 'i' := (List.cons.inj h).1
    cases hd
  · rintro r h
    obtain rfl : d = 'n' := (List.cons.inj h).1
    cases hd

theorem real?_of_sign {s : List Char} {negative : Bool}
    (h : sign s = (negative, Nat.toDigits 10 n ++ '\n' :: rest)) : real? s = none := by
  simp [real?, h, word?_line, wholeDigits?_line, fraction?, exponent?]

theorem toDigits_line_ne {c : Char} (hc : c ≠ '\n') (r : List Char) :
    Nat.toDigits 10 n ++ '\n' :: rest ≠ '0' :: c :: r := by
  intro heq
  by_cases hn : n = 0
  · subst hn
    exact hc (List.cons.inj (List.cons.inj heq).2).1.symm
  · have hzero := Text.head?_toDigits_ne_zero hn
    obtain ⟨d, ds, hds, -⟩ := Text.exists_toDigits_cons n
    rw [hds] at hzero heq
    exact hzero (congrArg some (List.cons.inj heq).1)

end Numbers

/-! ### Integers -/

section Integers

variable (n : Int) (rest : List Char)

theorem sign_literal : sign ((toString n).toList ++ rest) =
    (decide (n < 0), Nat.toDigits 10 n.natAbs ++ rest) := by
  rw [Text.toList_toString]
  by_cases h : n < 0
  · rw [if_pos h, decide_eq_true h]
    rfl
  · obtain ⟨d, ds, hds, hd⟩ := Text.exists_toDigits_cons n.natAbs
    rw [if_neg h, decide_eq_false h, hds]
    exact sign_cons_of_isDigit hd _

theorem date?_literal : date? ((toString n).toList ++ '\n' :: rest) = none := by
  rw [Text.toList_toString]
  by_cases h : n < 0
  · rw [if_pos h]
    simp [date?, day?, time?, upTo?, fixed?]
  · rw [if_neg h]
    exact date?_line (fun c => Text.isDigit_of_mem_toDigits) rest

/-- **An integer is read as it is**, however large it is. -/
theorem unbounded?_literal :
    unbounded? ((toString n).toList ++ '\n' :: rest) = some (n, '\n' :: rest) := by
  have hmark {c : Char} (hc : c ≠ '\n') (r : List Char) :
      (toString n).toList ++ '\n' :: rest ≠ '0' :: c :: r := by
    rw [Text.toList_toString]
    split
    · intro heq
      cases heq
    · exact toDigits_line_ne n.natAbs rest hc r
  rw [unbounded?]
  · rw [sign_literal]
    refine Option.bind_eq_some_iff.2 ⟨_, wholeDigits?_line n.natAbs rest, ?_⟩
    dsimp only
    rw [value_toDigits]
    by_cases h : n < 0
    · rw [if_pos (decide_eq_true h), Int.ofNat_natAbs_of_nonpos (Int.le_of_lt h), Int.neg_neg]
    · rw [if_neg (by simpa using h), Int.natAbs_of_nonneg (Int.not_lt.1 h)]
  · exact hmark (by decide)
  · exact hmark (by decide)
  · exact hmark (by decide)

/-- An integer on a line is read as a value. -/
theorem valueInWith?_literal : valueInWith? unbounded? ((toString n).toList ++ '\n' :: rest) =
    some (.integer n, '\n' :: rest) := by
  have hdate := date?_literal n rest
  have hreal := real?_of_sign n.natAbs rest (sign_literal n ('\n' :: rest))
  have hnumber := unbounded?_literal n rest
  obtain ⟨c, s, hs, hc⟩ := Text.exists_toString_cons n
  rw [hs, List.cons_append] at hdate hreal hnumber ⊢
  have hne {d : Char} (hd : d ∉ Text.literalChars) : c ≠ d := by
    rintro rfl
    exact hd hc
  have hscalar : scalarWith? unbounded? (c :: (s ++ '\n' :: rest)) =
      some (.integer n, '\n' :: rest) := by
    unfold scalarWith?
    have hquote : ¬ (c = '"' ∨ c = '\'') := by
      simp [hne (d := '"') (by decide), hne (d := '\'') (by decide)]
    simp only [if_neg hquote]
    split
    · rename_i h
      exact absurd (List.cons.inj h).1 (hne (by decide))
    · rename_i h
      exact absurd (List.cons.inj h).1 (hne (by decide))
    · simp only [hdate, hreal, hnumber, Option.map_some]
  rw [valueInWith?, valueWith?]
  · exact hscalar
  · rintro r h
    exact absurd (List.cons.inj h).1 (hne (by decide))
  · rintro r h
    exact absurd (List.cons.inj h).1 (hne (by decide))

end Integers

/-- A number on a line is read back as a value, if it fits in 64 bits with a sign. -/
theorem valueIn?_toDigits (n : Nat) (rest : List Char) (h : n < 0x8000000000000000) :
    valueIn? (Nat.toDigits 10 n ++ '\n' :: rest) = some (.integer n, '\n' :: rest) := by
  have hwritten : (toString (n : Int)).toList = Nat.toDigits 10 n := by
    rw [Text.toList_toString, if_neg (Int.not_lt.2 (Int.natCast_nonneg n)), Int.natAbs_natCast]
  have hfits : fits (n : Int) = true := by
    have hlow : (-0x8000000000000000 : Int) ≤ n := by omega
    have hhigh : (n : Int) < 0x8000000000000000 := by omega
    exact Bool.and_eq_true_iff.2 ⟨decide_eq_true hlow, decide_eq_true hhigh⟩
  rw [valueIn?_iff_unbounded, ← hwritten]
  exact ⟨valueInWith?_literal n rest, .integer hfits⟩

end Toml

end FirmwareCatalog
