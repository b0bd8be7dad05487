/-
**Integers are exact or refused.**

The digits of a literal are added up as long as 64 bits hold them, and any literal that does not
fit, or has a sign, a fraction or an exponent, becomes a number of another kind, which no field for
integers takes.  So what such a field takes is exactly the literals that are written as numbers are
written here: the digits of a number that is small enough, without a leading zero.

A written value has a content of its own, and a text in which it is the only thing; the literal of a
number in it is made of the digits of that number.

Main definitions:

* `Json.Numeral.IsPlain` — the literal is made of the digits of a number;
* `Json.integer`, `Json.content` — the content of an integer, and of a value.

Main results:

* `Json.Numeral.read_eq_natural_iff` — **which literals stand for integers**, and for which;
* `Json.takes_unsigned32_iff`, `Json.takes_unsigned64_iff` — which literals are taken;
* `Json.takes_unsigned64_integer_iff` — which integers are taken;
* `Json.isTextOf_render` — what a written value says.
-/
import FirmwareCatalog.Proofs.Json.Records
import FirmwareCatalog.Proofs.Json.Writable

set_option relaxedAutoImplicit false
set_option autoImplicit false

namespace FirmwareCatalog.Json

/-! ### Digits -/

/-- A digit is the one of its value. -/
theorem digitChar_of_isDigit {d : Char} (h : d.isDigit = true) :
    Nat.digitChar (d.toNat - '0'.toNat) = d ∧ d.toNat - '0'.toNat < 10 := by
  have hvalues : ∀ n < 10, Nat.digitChar n = Char.ofNat ('0'.toNat + n) := by decide
  simp only [Char.isDigit, ge_iff_le, Bool.and_eq_true, decide_eq_true_eq] at h
  have hlow : '0'.toNat ≤ d.toNat := h.1
  have hhigh : d.toNat ≤ '9'.toNat := h.2
  have hlt : d.toNat - '0'.toNat < 10 := by
    change d.toNat - 48 < 10
    change d.toNat ≤ 57 at hhigh
    omega
  refine ⟨?_, hlt⟩
  rw [hvalues _ hlt, Nat.add_sub_cancel' hlow, Char.ofNat_toNat]

theorem toDigits_ofDigitChars {ds : List Char} (h : ∀ d ∈ ds, d.isDigit = true) {n : Nat}
    (hn : 0 < n) : Nat.toDigits 10 (Nat.ofDigitChars 10 ds n) = Nat.toDigits 10 n ++ ds := by
  induction ds generalizing n with
  | nil => simp
  | cons d ds ih =>
      obtain ⟨hd, hds⟩ := List.forall_mem_cons.1 h
      obtain ⟨hchar, hlt⟩ := digitChar_of_isDigit hd
      rw [Nat.ofDigitChars_cons, ih hds (by omega),
        ← Nat.toDigits_append_toDigits (by decide) hn hlt, Nat.toDigits_of_lt_base hlt, hchar,
        List.append_assoc, List.singleton_append]

namespace Numeral

/-- The literal is made of the digits of the number, without sign, fraction or exponent. -/
structure IsPlain (l : Numeral) (n : Nat) : Prop where
  negative : l.negative = false
  whole : l.whole = Nat.toDigits 10 n
  fraction : l.fraction = none
  exponent : l.exponent = none

/-- The digits of a literal are those of the number that they make. -/
theorem IsLiteral.toDigits_whole {l : Numeral} (h : l.IsLiteral) :
    Nat.toDigits 10 (Nat.ofDigitChars 10 l.whole 0) = l.whole := by
  have hzero := h.zero
  obtain ⟨hne, hdigits⟩ := h.whole
  obtain ⟨d, ds, hds⟩ := List.exists_cons_of_ne_nil hne
  rw [hds] at hzero hdigits ⊢
  obtain ⟨hd, hrest⟩ := List.forall_mem_cons.1 hdigits
  obtain ⟨hchar, hlt⟩ := digitChar_of_isDigit hd
  by_cases hstart : d = '0'
  · -- only zero itself begins with a zero
    rw [hzero (by rw [hstart]; rfl)]
    rfl
  · have hpos : 0 < 10 * 0 + (d.toNat - '0'.toNat) := by
      refine Nat.pos_of_ne_zero fun hnone => hstart ?_
      rw [Nat.mul_zero, Nat.zero_add] at hnone
      rw [← hchar, hnone]
      rfl
    rw [Nat.ofDigitChars_cons, toDigits_ofDigitChars hrest hpos, Nat.mul_zero, Nat.zero_add,
      Nat.toDigits_of_lt_base hlt, hchar, List.singleton_append]

/-- Digits that 64 bits do not hold are dropped. -/
theorem dropped_pos {ds : List Char} {n : Nat} (hn : n ≤ max64)
    (h : max64 < Nat.ofDigitChars 10 ds n) : 0 < (leadingDigits n ds).2 := by
  induction ds generalizing n with
  | nil =>
      rw [Nat.ofDigitChars_nil] at h
      omega
  | cons d ds ih =>
      have hcomm : n * 10 + digitValue d = 10 * n + (d.toNat - '0'.toNat) := by
        rw [digitValue, Nat.mul_comm]
      rw [Nat.ofDigitChars_cons] at h
      rw [leadingDigits, hcomm]
      by_cases hfits : max64 < 10 * n + (d.toNat - '0'.toNat)
      · rw [if_pos hfits]
        exact Nat.succ_pos _
      · rw [if_neg hfits]
        exact ih (Nat.not_lt.1 hfits) h

theorem real_ne_natural (l : Numeral) (m : Nat) (e : Int) (n : Nat) :
    l.real m e ≠ .ok (.natural n) := by
  unfold real
  cases scale 8 (Magnitude.ofRatio m 1) e <;> simp

/-- A literal without fraction and exponent stands for an integer if it has no sign and 64 bits hold
its digits. -/
theorem read_whole_eq_natural_iff {l : Numeral} (hfraction : l.fraction = none)
    (hexponent : l.exponent = none) {n : Nat} :
    l.read = .ok (.natural n) ↔
      l.negative = false ∧ Nat.ofDigitChars 10 l.whole 0 ≤ max64 ∧
        Nat.ofDigitChars 10 l.whole 0 = n := by
  unfold read
  simp only [hfraction, hexponent]
  by_cases hfits : Nat.ofDigitChars 10 l.whole 0 ≤ max64
  · rw [leadingDigits_eq hfits]
    cases l.negative with
    | false => simp [hfits]
    | true =>
        simp only [Nat.lt_irrefl, if_false, if_true, Bool.true_eq_false, false_and, iff_false]
        split
        · exact real_ne_natural l _ _ n
        · intro h
          cases h
  · have hdropped := dropped_pos (Nat.zero_le max64) (Nat.not_le.1 hfits)
    rw [if_pos hdropped]
    exact iff_of_false (real_ne_natural l _ _ n) fun h => hfits h.2.1

/-- A literal with a fraction or an exponent stands for no integer. -/
theorem read_scaled_ne_natural {l : Numeral} (h : ¬ (l.fraction = none ∧ l.exponent = none))
    (n : Nat) : l.read ≠ .ok (.natural n) := by
  obtain ⟨negative, whole, fraction, exponent, after⟩ := l
  intro hread
  unfold read at hread
  cases exponent with
  | none =>
      cases fraction with
      | none => exact h ⟨rfl, rfl⟩
      | some ds => exact real_ne_natural _ _ _ n hread
  | some e =>
      -- with an exponent, a missing fraction is one without digits
      cases hvalue : exponentValue 0 e.digits e.start with
      | ok k =>
          cases fraction <;> simp only [hvalue] at hread <;> exact real_ne_natural _ _ _ n hread
      | error rest =>
          cases fraction <;> simp only [hvalue] at hread <;> split at hread <;> cases hread

/-- **A literal stands for an integer exactly if it is made of its digits**, and 64 bits hold it. -/
theorem read_eq_natural_iff {l : Numeral} (h : l.IsLiteral) {n : Nat} :
    l.read = .ok (.natural n) ↔ l.IsPlain n ∧ n ≤ max64 := by
  constructor
  · intro hread
    have hplain : l.fraction = none ∧ l.exponent = none :=
      Classical.byContradiction fun hscaled => read_scaled_ne_natural hscaled n hread
    obtain ⟨hnegative, hfits, rfl⟩ := (read_whole_eq_natural_iff hplain.1 hplain.2).1 hread
    exact ⟨⟨hnegative, h.toDigits_whole.symm, hplain.1, hplain.2⟩, hfits⟩
  · rintro ⟨hplain, hfits⟩
    rw [read_whole_eq_natural_iff hplain.fraction hplain.exponent, hplain.whole,
      Nat.ofDigitChars_ten_toDigits]
    exact ⟨hplain.negative, hfits, rfl⟩

end Numeral

/-! ### What fields for integers take -/

section Unsigned

variable {l : Numeral}

theorem Numeral.IsLiteral.bare (h : l.IsLiteral) : l.bare.IsLiteral where
  whole := h.whole
  zero := h.zero
  fraction := h.fraction
  exponent e he := by
    obtain ⟨e', he', rfl⟩ := Option.map_eq_some_iff.1 he
    exact h.exponent e' he'

theorem isLiteral_of_isWritable (h : (Content.number l).IsWritable) :
    l.IsLiteral ∧ (Node.number l).content? = some (.number l) := by
  cases h with
  | @number l hl =>
      refine ⟨hl.bare, ?_⟩
      obtain ⟨negative, whole, fraction, exponent, after⟩ := l
      cases exponent <;> rfl

/-- A field for integers takes the literals of the numbers below its bound. -/
theorem takes_unsigned_iff {expected : Expected} {bound : Nat} (h : (Content.number l).IsWritable)
    (hbound : bound ≤ max64 + 1) {n : Nat} :
    Takes (unsigned expected bound) (.number l) n ↔ l.IsPlain n ∧ n < bound := by
  obtain ⟨hl, hnode⟩ := isLiteral_of_isWritable h
  have hread : Takes (unsigned expected bound) (.number l) n ↔
      l.read = .ok (.natural n) ∧ n < bound := by
    rw [(follows_unsigned expected bound).takes_iff hnode, unsigned_eq_ok_iff]
    constructor
    · rintro ⟨c, hc, l', rfl, hread⟩
      cases hnode.symm.trans hc
      exact hread
    · intro hread
      exact ⟨_, hnode, l, rfl, hread⟩
  rw [hread, Numeral.read_eq_natural_iff hl]
  constructor
  · rintro ⟨⟨hplain, -⟩, hlt⟩
    exact ⟨hplain, hlt⟩
  · rintro ⟨hplain, hlt⟩
    exact ⟨⟨hplain, by omega⟩, hlt⟩

/-- **Which literals a field of 32 bits takes.** -/
theorem takes_unsigned32_iff (h : (Content.number l).IsWritable) {n : UInt32} :
    Takes unsigned32 (.number l) n ↔ l.IsPlain n.toNat := by
  unfold unsigned32
  rw [takes_map_iff]
  constructor
  · rintro ⟨m, hm, rfl⟩
    obtain ⟨hplain, hlt⟩ := (takes_unsigned_iff h (by decide)).1 hm
    rwa [UInt32.toNat_ofNat_of_lt' hlt]
  · intro hplain
    refine ⟨n.toNat, (takes_unsigned_iff h (by decide)).2 ⟨hplain, n.toNat_lt⟩, ?_⟩
    exact UInt32.ofNat_toNat

/-- **Which literals a field of 64 bits takes.** -/
theorem takes_unsigned64_iff (h : (Content.number l).IsWritable) {n : UInt64} :
    Takes unsigned64 (.number l) n ↔ l.IsPlain n.toNat := by
  unfold unsigned64
  rw [takes_map_iff]
  constructor
  · rintro ⟨m, hm, rfl⟩
    obtain ⟨hplain, hlt⟩ := (takes_unsigned_iff h (by decide)).1 hm
    rwa [UInt64.toNat_ofNat_of_lt' hlt]
  · intro hplain
    refine ⟨n.toNat, (takes_unsigned_iff h (by decide)).2 ⟨hplain, n.toNat_lt⟩, ?_⟩
    exact UInt64.ofNat_toNat

end Unsigned

/-! ### Integers with their sign -/

/-- What the literal of an integer says. -/
def integer (n : Int) : Content :=
  .number ⟨decide (n < 0), Nat.toDigits 10 n.natAbs, none, none, []⟩

/-- Every integer can be written. -/
theorem isWritable_integer (n : Int) : (integer n).IsWritable := by
  have hliteral : Numeral.IsLiteral ⟨decide (n < 0), Nat.toDigits 10 n.natAbs, none, none, []⟩ :=
    { whole := ⟨Nat.toDigits_ne_nil, fun d hd => Text.isDigit_of_mem_toDigits hd⟩
      zero := fun hzero => by
        by_cases hn : n.natAbs = 0
        · rw [hn]
          rfl
        · exact absurd hzero (Text.head?_toDigits_ne_zero hn)
      fraction := fun ds hds => by cases hds
      exponent := fun e he => by cases he }
  exact .number hliteral

/-- **The number that a field of 64 bits takes for an integer is the integer.** -/
theorem takes_unsigned64_integer_iff {n : Int} {m : UInt64} :
    Takes unsigned64 (integer n) m ↔ (m.toNat : Int) = n := by
  rw [integer, takes_unsigned64_iff (isWritable_integer n)]
  constructor
  · intro hplain
    have hnonneg : ¬ n < 0 := of_decide_eq_false hplain.negative
    have hvalue := congrArg (Text.ofDigits? 10) hplain.whole
    rw [Text.ofDigits?_toDigits, Text.ofDigits?_toDigits] at hvalue
    have hsame : n.natAbs = m.toNat := Option.some.inj hvalue
    omega
  · rintro rfl
    have hwhole : Nat.toDigits 10 (m.toNat : Int).natAbs = Nat.toDigits 10 m.toNat := by
      rw [Int.natAbs_natCast]
    have hnonneg : ¬ (m.toNat : Int) < 0 := Int.not_lt.2 (Int.natCast_nonneg m.toNat)
    exact ⟨decide_eq_false hnonneg, hwhole, rfl, rfl⟩

/-! ### What a written value says -/

mutual

/-- The content of a value. -/
def content : Json → Content
  | .null => .null
  | .bool b => .bool b
  | .nat n => .number ⟨false, Nat.toDigits 10 n, none, none, []⟩
  | .string s => .string (some s)
  | .array items => .array (contentItems items)
  | .object members => .object (contentMembers members)

def contentItems : List Json → List Content
  | [] => []
  | v :: vs => content v :: contentItems vs

def contentMembers : List (String × Json) → List (Option String × Content)
  | [] => []
  | (k, v) :: ms => (some k, content v) :: contentMembers ms

end

theorem contentItems_eq_map (vs : List Json) : contentItems vs = vs.map content := by
  induction vs with
  | nil => rfl
  | cons v vs ih => rw [contentItems, ih, List.map_cons]

theorem contentMembers_append (ms ms' : List (String × Json)) :
    contentMembers (ms ++ ms') = contentMembers ms ++ contentMembers ms' := by
  induction ms with
  | nil => rfl
  | cons m ms ih => rw [List.cons_append, contentMembers, contentMembers, ih, List.cons_append]

mutual

/-- The tree of a written value has its content. -/
theorem content?_tree (rest : List Char) : ∀ v : Json, (tree rest v).content? = some v.content
  | .null => rfl
  | .bool _ => rfl
  | .nat _ => rfl
  | .string _ => rfl
  | .array items => by
      rw [tree, Node.content?, content?_treeItems rest items, content]
      rfl
  | .object members => by
      rw [tree, Node.content?, content?_treeMembers rest members, content]
      rfl

theorem content?_treeItems (rest : List Char) :
    ∀ vs : List Json, (treeItems rest vs).content? = some (contentItems vs)
  | [] => rfl
  | v :: vs => by
      rw [treeItems, Items.content?, content?_tree _ v, content?_treeItems rest vs, contentItems]

theorem content?_treeMembers (rest : List Char) :
    ∀ ms : List (String × Json), (treeMembers rest ms).content? = some (contentMembers ms)
  | [] => rfl
  | (k, v) :: ms => by
      rw [treeMembers, Members.content?, content?_tree _ v, content?_treeMembers rest ms,
        contentMembers]
      rfl

end

/-- **A written value says what it is.** -/
theorem isTextOf_render (v : Json) : IsTextOf v.render v.content := by
  rw [← content?_eq_some_iff_isTextOf, content?_eq_some_iff, IsWhole, read_render]
  exact ⟨content?_tree [] v, [], after?_tree [] v, rfl⟩

end FirmwareCatalog.Json
