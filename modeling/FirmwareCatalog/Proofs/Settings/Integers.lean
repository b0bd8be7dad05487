/-
**Integers in variables.**

The value of a variable can be the literal of an integer.  What settings take from it is the integer
itself, if it is a number without a sign and of 64 bits, and nothing otherwise: a negative one has a
sign, and one that is too large is a text.

Main results:

* `VariableValue.parse_toString` — the literal is read as a whole;
* `VariableValue.number?_parse_toString` — **the number taken is the integer**.
-/
import FirmwareCatalog.Proofs.Settings.Layering
import FirmwareCatalog.Proofs.Toml.Literals

set_option relaxedAutoImplicit false
set_option autoImplicit false

namespace FirmwareCatalog

/-! ### Literals -/

theorem Text.trim_of_forall {s : List Char} (h : ∀ c ∈ s, isBlank c = false) : trim s = s := by
  have hstart {s : List Char} (h : ∀ c ∈ s, isBlank c = false) : s.dropWhile isBlank = s := by
    cases s with
    | nil => rfl
    | cons c s => exact List.dropWhile_cons_of_neg (by simp [h c List.mem_cons_self])
  have hend := hstart fun c hc => h c (List.mem_reverse.1 hc)
  rw [trim, trimStart, hstart h, trimEnd, hend, List.reverse_reverse]

/-! ### Numbers -/

namespace Datum

variable {o : Origin} {m : UInt64}

/-- A number without a sign is taken if it has 64 bits. -/
theorem number?_unsigned_iff {n : Nat} :
    (scalar o (.unsigned n)).number? = some m ↔ m.toNat = n := by
  by_cases hlt : n < UInt64.size
  · simp only [number?, scalar?, if_pos hlt, Option.some.injEq]
    constructor
    · rintro rfl
      exact UInt64.toNat_ofNat_of_lt' hlt
    · rintro rfl
      exact UInt64.ofNat_toNat
  · simp only [number?, scalar?, if_neg hlt]
    exact iff_of_false (fun h => by cases h) fun h => hlt (h ▸ m.toNat_lt)

/-- A number with a sign is taken if it could do without. -/
theorem number?_signed_iff {n : Int} :
    (scalar o (.signed n)).number? = some m ↔ (m.toNat : Int) = n := by
  have hsize : m.toNat < UInt64.size := m.toNat_lt
  by_cases hin : 0 ≤ n ∧ n < UInt64.size
  · have hlt : n.toNat < UInt64.size := by omega
    have hsame := number?_unsigned_iff (o := o) (m := m) (n := n.toNat)
    simp only [number?, scalar?, if_pos hlt] at hsame
    simp only [number?, scalar?, if_pos hin]
    rw [hsame]
    omega
  · simp only [number?, scalar?, if_neg hin]
    exact iff_of_false (fun h => by cases h) fun h => hin (by omega)

end Datum

namespace VariableValue

/-- A text that begins like no other value stands for itself, up to what ends it. -/
theorem value?_of_head {s t : List Char} {c : Char} (hskip : skip s = c :: t)
    (hc : c ∉ ['t', 'f', '\x7b', '[', '"', '\'']) (n : Nat) :
    value? (n + 1) s = some (.scalar .environment
      (plain (Text.trim ((c :: t).takeWhile fun c => !isEnd c))),
        (c :: t).drop ((c :: t).takeWhile fun c => !isEnd c).length) := by
  simp only [List.mem_cons, List.not_mem_nil, or_false, not_or] at hc
  obtain ⟨htrue, hfalse, hbrace, hbracket, hdouble, hsingle⟩ := hc
  rw [value?, hskip]
  split
  · rename_i heq
    exact absurd (List.cons.inj heq).1 htrue
  · rename_i heq
    exact absurd (List.cons.inj heq).1 hfalse
  · rename_i heq
    exact absurd (List.cons.inj heq).1 hbrace
  · rename_i heq
    exact absurd (List.cons.inj heq).1 hbracket
  · rename_i heq
    exact absurd (List.cons.inj heq).1 hdouble
  · rename_i heq
    exact absurd (List.cons.inj heq).1 hsingle
  · rfl

/-- The literal of an integer is read as a whole. -/
theorem parse_toString (n : Int) :
    parse (toString n) = .scalar .environment (plain (toString n).toList) := by
  have hnone : Text.literalChars.any (fun c => Text.isBlank c || isAround c || isEnd c ||
      ['t', 'f', '\x7b', '[', '"', '\''].contains c) = false := by decide
  have hall (c : Char) (hc : c ∈ Text.literalChars) := List.any_eq_false.1 hnone c hc
  simp only [Bool.or_eq_true, not_or, and_assoc, List.contains_iff_mem] at hall
  have hchars (c : Char) (hc : c ∈ (toString n).toList) := hall c (Text.mem_literalChars hc)
  have htrim : Text.trim (toString n).toList = (toString n).toList :=
    Text.trim_of_forall fun c hc => Bool.eq_false_iff.2 (hchars c hc).1
  have hkept : ∀ c ∈ (toString n).toList, (!isEnd c) = true :=
    fun c hc => by simpa using (hchars c hc).2.2.1
  have htake := Text.takeWhile_append_stop hkept (Text.stops_nil _)
  obtain ⟨c, s, hs, hc⟩ := Text.exists_toString_cons n
  obtain ⟨-, haround, -, hother⟩ := hall c hc
  have hskip : skip (toString n).toList = c :: s := by
    rw [hs, skip, List.dropWhile_cons_of_neg haround]
  rw [parse, htrim]
  simp only [value?_of_head hskip hother]
  rw [List.append_nil] at htake
  rw [← hs, htake, htrim, List.drop_length]

theorem sign_toString (n : Int) :
    sign (toString n).toList = (decide (n < 0), Nat.toDigits 10 n.natAbs) := by
  have hsign := Toml.sign_literal n []
  rw [List.append_nil, List.append_nil] at hsign
  exact hsign

theorem real?_toString (n : Int) : real? (toString n).toList = none := by
  have htake := Text.takeWhile_append_stop (fun c => Text.isDigit_of_mem_toDigits (n := n.natAbs))
    (Text.stops_nil Char.isDigit)
  rw [List.append_nil] at htake
  simp only [real?, sign_toString, htake, List.drop_length]

theorem integer?_toString (n : Int) : integer? (toString n).toList =
    if n < 0 then (if n.natAbs ≤ 0x8000000000000000 then some (.signed n) else none)
    else if n.natAbs < UInt64.size then some (.unsigned n.natAbs) else none := by
  unfold integer?
  rw [sign_toString]
  simp only [Text.ofDigits?_toDigits, Option.bind_eq_bind, Option.bind_some, decide_eq_true_eq]
  split
  · rename_i hneg
    rw [Int.ofNat_natAbs_of_nonpos (Int.le_of_lt hneg), Int.neg_neg]
  · rfl

/-- **The number that settings take from the literal of an integer is the integer.** -/
theorem number?_parse_toString (n : Int) (m : UInt64) :
    (parse (toString n)).number? = some m ↔ (m.toNat : Int) = n := by
  have hsize := m.toNat_lt
  have htext (s : String) (hne : (m.toNat : Int) ≠ n) :
      (Datum.scalar .environment (.text s)).number? = some m ↔ (m.toNat : Int) = n :=
    iff_of_false (by simp [Datum.number?, Datum.scalar?]) hne
  rw [parse_toString, plain, real?_toString, integer?_toString]
  by_cases hneg : n < 0
  · rw [if_pos hneg]
    split
    · exact Datum.number?_signed_iff
    · exact htext _ (by omega)
  · rw [if_neg hneg]
    split
    · refine Datum.number?_unsigned_iff.trans ?_
      omega
    · rename_i hlarge
      unfold UInt64.size at hlarge
      exact htext _ (by omega)

end VariableValue

end FirmwareCatalog
