/-
**Percent encoding can be undone.**

Where the percent sign itself is encoded, decoding an encoded text gives the bytes of the text, so
that two texts are never encoded alike.  What is written is a percent sign, a digit, or a character
that may stand for itself.

Main results:

* `Percent.decode_encode` — **decoding undoes encoding**;
* `Percent.encode_injective` — two texts are never encoded alike;
* `Percent.forall_mem_encode` — what encoded texts are made of.
-/
import FirmwareCatalog.Proofs.Text.Utf8
import FirmwareCatalog.Url.Percent

set_option relaxedAutoImplicit false
set_option autoImplicit false

namespace FirmwareCatalog.Percent

/-! ### One byte -/

theorem digitValue?_digit {n : Nat} (h : n < 16) : Text.digitValue? (digit n) = some n := by
  have hall : ∀ n < 16, Text.digitValue? (digit n) = some n := by decide
  exact hall n h

theorem decode_encodeByte (b : UInt8) (rest : List Char) :
    decode (encodeByte b ++ rest) = b :: decode rest := by
  have hlt : b.toNat < 256 := b.toNat_lt
  have hhigh : b.toNat / 16 < 16 := by omega
  have hlow : b.toNat % 16 < 16 := by omega
  have hsum : b.toNat / 16 * 16 + b.toNat % 16 = b.toNat := by omega
  simp only [encodeByte, List.cons_append, List.nil_append, decode, digitValue?_digit hhigh,
    digitValue?_digit hlow, hsum, UInt8.ofNat_toNat]

theorem decode_encodeBytes (bs : List UInt8) (rest : List Char) :
    decode (bs.flatMap encodeByte ++ rest) = bs ++ decode rest := by
  induction bs with
  | nil => rfl
  | cons b bs ih =>
      rw [List.flatMap_cons, List.append_assoc, decode_encodeByte, ih, List.cons_append]

theorem decode_cons_of_ne {c : Char} (h : c ≠ '%') (rest : List Char) :
    decode (c :: rest) = Utf8.encode [c] ++ decode rest := by
  rw [decode]
  rintro a b rest' hc
  exact absurd hc h

theorem decode_of_not_mem {s : List Char} (h : '%' ∉ s) : decode s = Utf8.encode s := by
  induction s with
  | nil => rfl
  | cons c s ih =>
      rw [List.mem_cons, not_or] at h
      rw [decode_cons_of_ne (Ne.symm h.1), ih h.2, ← Utf8.encode_cons]

/-! ### Whole texts -/

theorem decode_encodeChar {set : Char → Bool} (hset : set '%' = true) (c : Char)
    (rest : List Char) :
    decode (encodeChar set c ++ rest) = Utf8.encode [c] ++ decode rest := by
  rcases hc : set c with _ | _
  · have hne : c ≠ '%' := by
      rintro rfl
      rw [hset] at hc
      cases hc
    rw [encodeChar_of_not hc, List.singleton_append, decode_cons_of_ne hne]
  · rw [encodeChar, if_pos hc, decode_encodeBytes]

/-- **Decoding undoes encoding**, where the percent sign itself is encoded. -/
theorem decode_encode {set : Char → Bool} (hset : set '%' = true) (s : List Char) :
    decode (encode set s) = Utf8.encode s := by
  induction s with
  | nil => rfl
  | cons c s ih =>
      rw [Utf8.encode_cons, ← ih]
      exact decode_encodeChar hset c (encode set s)

/-- Two texts are never encoded alike. -/
theorem encode_injective {set : Char → Bool} (hset : set '%' = true) {s t : List Char}
    (h : encode set s = encode set t) : s = t := by
  refine Utf8.encode_injective ?_
  rw [← decode_encode hset s, h, decode_encode hset]

/-! ### What is written -/

theorem encode_eq_self {set : Char → Bool} {s : List Char} (h : ∀ c ∈ s, set c = false) :
    encode set s = s := by
  induction s with
  | nil => rfl
  | cons c s ih =>
      have hrest := ih fun d hd => h d (List.mem_cons_of_mem _ hd)
      rw [encode, List.flatMap_cons, encodeChar_of_not (h c List.mem_cons_self)]
      exact congrArg (c :: ·) hrest

/-- What holds of the percent sign, of digits, and of the characters of a text that are not encoded,
holds of everything in the encoded text. -/
theorem forall_mem_encode {set : Char → Bool} {p : Char → Prop} (hsign : p '%')
    (hdigit : ∀ n < 16, p (digit n)) {s : List Char} (hplain : ∀ c ∈ s, set c = false → p c)
    {c : Char} (hc : c ∈ encode set s) : p c := by
  obtain ⟨d, hmem, hd⟩ := List.mem_flatMap.1 hc
  rcases hset : set d with _ | _
  · rw [encodeChar_of_not hset, List.mem_singleton] at hd
    exact hd ▸ hplain d hmem hset
  · rw [encodeChar, if_pos hset] at hd
    obtain ⟨b, -, hb⟩ := List.mem_flatMap.1 hd
    have hlt : b.toNat < 256 := b.toNat_lt
    simp only [encodeByte, List.mem_cons, List.not_mem_nil, or_false] at hb
    rcases hb with rfl | rfl | rfl
    · exact hsign
    · exact hdigit _ (by omega)
    · exact hdigit _ (by omega)

end FirmwareCatalog.Percent
