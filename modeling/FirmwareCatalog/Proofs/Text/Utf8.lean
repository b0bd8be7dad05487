/-
**UTF-8 loses nothing.**

The bytes of a text are read back as the text.  A character takes one to four bytes; the first byte
says how many follow and within which range the second one must lie, and every further byte brings
six bits.

Main results:

* `Utf8.unitsFrom_encodeChar` — the bytes of one character, with anything behind them;
* `Utf8.decodeLossy_encode`, `Utf8.decode?_encode` — **the bytes of a text stand for that text**;
* `Utf8.encode_injective` — two texts never have the same bytes;
* `Utf8.exists_encodeChar` — where there is no fault, a character is read from its bytes;
* `Utf8.decode?_eq_some_iff` — **only the bytes of a text stand for it**.
-/
import FirmwareCatalog.Text.Utf8

set_option relaxedAutoImplicit false
set_option autoImplicit false

namespace FirmwareCatalog.Utf8

theorem toNat_byte {n : Nat} (h : n < 256) : (UInt8.ofNat n).toNat = n :=
  UInt8.toNat_ofNat_of_lt' h

/-! ### First bytes -/

theorem lead_one {n : Nat} (h : n < 0x80) : lead (UInt8.ofNat n) = .single (Char.ofNat n) := by
  have hn : (UInt8.ofNat n).toNat = n := toNat_byte (by omega)
  simp only [lead, hn, if_pos h]

theorem lead_two {k : Nat} (hlow : 2 ≤ k) (hhigh : k < 32) :
    lead (UInt8.ofNat (k + 0xC0)) = .start ⟨1, 0x80, 0xBF, k⟩ := by
  have hn : (UInt8.ofNat (k + 0xC0)).toNat = k + 0xC0 := toNat_byte (by omega)
  have h₁ : ¬ k + 0xC0 < 0x80 := by omega
  have h₂ : ¬ k + 0xC0 < 0xC2 := by omega
  have h₃ : k + 0xC0 < 0xE0 := by omega
  simp only [lead, hn, if_neg h₁, if_neg h₂, if_pos h₃, Nat.add_sub_cancel]

/-- The first of three bytes brings four bits.  The second one may neither make a form that is too
long nor a surrogate. -/
theorem lead_three {k : Nat} (h : k < 16) :
    lead (UInt8.ofNat (k + 0xE0)) =
      .start ⟨2, if k = 0 then 0xA0 else 0x80, if k = 13 then 0x9F else 0xBF, k⟩ := by
  have hn : (UInt8.ofNat (k + 0xE0)).toNat = k + 0xE0 := toNat_byte (by omega)
  have h₁ : ¬ k + 0xE0 < 0x80 := by omega
  have h₂ : ¬ k + 0xE0 < 0xC2 := by omega
  have h₃ : ¬ k + 0xE0 < 0xE0 := by omega
  simp only [lead, hn, if_neg h₁, if_neg h₂, if_neg h₃]
  by_cases hzero : k = 0
  · subst hzero
    rfl
  by_cases hsurrogate : k = 13
  · subst hsurrogate
    rfl
  have h₄ : ¬ k + 0xE0 = 0xE0 := by omega
  have h₅ : ¬ k + 0xE0 = 0xED := by omega
  have h₆ : k + 0xE0 < 0xF0 := by omega
  simp only [if_neg h₄, if_neg h₅, if_pos h₆, if_neg hzero, if_neg hsurrogate, Nat.add_sub_cancel]

/-- The first of four bytes brings three bits.  The second one may neither make a form that is too
long nor a code point beyond the last one. -/
theorem lead_four {k : Nat} (h : k < 5) :
    lead (UInt8.ofNat (k + 0xF0)) =
      .start ⟨3, if k = 0 then 0x90 else 0x80, if k = 4 then 0x8F else 0xBF, k⟩ := by
  match k, h with
  | 0, _ | 1, _ | 2, _ | 3, _ | 4, _ => rfl

/-! ### Further bytes -/

theorem unitsFrom_last {low high bits m : Nat} (hm : m < 64) (hlow : low ≤ m + 0x80)
    (hhigh : m + 0x80 ≤ high) (r : List UInt8) :
    unitsFrom (some ⟨1, low, high, bits⟩) (UInt8.ofNat (m + 0x80) :: r) =
      some (Char.ofNat (bits * 64 + m)) :: unitsFrom none r := by
  have hn : (UInt8.ofNat (m + 0x80)).toNat = m + 0x80 := toNat_byte (by omega)
  rw [unitsFrom, hn, if_pos ⟨hlow, hhigh⟩, Nat.add_sub_cancel]
  rfl

theorem unitsFrom_next {owed low high bits m : Nat} (howed : 1 < owed) (hm : m < 64)
    (hlow : low ≤ m + 0x80) (hhigh : m + 0x80 ≤ high) (r : List UInt8) :
    unitsFrom (some ⟨owed, low, high, bits⟩) (UInt8.ofNat (m + 0x80) :: r) =
      unitsFrom (some ⟨owed - 1, 0x80, 0xBF, bits * 64 + m⟩) r := by
  have hn : (UInt8.ofNat (m + 0x80)).toNat = m + 0x80 := toNat_byte (by omega)
  have howed' : ¬ owed ≤ 1 := by omega
  rw [unitsFrom, hn, if_pos ⟨hlow, hhigh⟩, Nat.add_sub_cancel]
  simp only [if_neg howed']

/-! ### Characters and texts -/

theorem toNat_cases (c : Char) : c.toNat < 0xD800 ∨ 0xDFFF < c.toNat ∧ c.toNat < 0x110000 :=
  c.valid

theorem toNat_ofNat {n : Nat} (h : n < 0xD800 ∨ 0xDFFF < n ∧ n < 0x110000) :
    (Char.ofNat n).toNat = n := by
  rw [Char.ofNat, dif_pos h]
  rfl

/-- **The bytes of a character are read as that character**, whatever stands behind them. -/
theorem unitsFrom_encodeChar (c : Char) (r : List UInt8) :
    unitsFrom none (String.utf8EncodeChar c ++ r) = some c :: unitsFrom none r := by
  have hc : Char.ofNat c.toNat = c := Char.ofNat_toNat c
  have hvalid := toNat_cases c
  have hval : c.val.toNat = c.toNat := rfl
  -- one to four bytes, by the number of bits; the bounds on them keep the bytes in their ranges
  generalize c.toNat = n at hc hvalid hval
  rw [String.utf8EncodeChar, hval]
  by_cases h₁ : n ≤ 0x7F
  · rw [if_pos h₁, List.singleton_append, unitsFrom, lead_one (by omega)]
    simp only [hc]
  by_cases h₂ : n ≤ 0x7FF
  · have hbits : n / 64 % 32 * 64 + n % 64 = n := by omega
    rw [if_neg h₁, if_pos h₂, List.cons_append, List.singleton_append, unitsFrom,
      lead_two (by omega) (by omega)]
    simp only []
    rw [unitsFrom_last (by omega) (by omega) (by omega), hbits, hc]
  by_cases h₃ : n ≤ 0xFFFF
  · have hbits : (n / 4096 % 16 * 64 + n / 64 % 64) * 64 + n % 64 = n := by omega
    rw [if_neg h₁, if_neg h₂, if_pos h₃, List.cons_append, List.cons_append, List.singleton_append,
      unitsFrom, lead_three (by omega)]
    simp only []
    rw [unitsFrom_next (by omega) (by omega) (by split <;> omega) (by split <;> omega),
      unitsFrom_last (by omega) (by omega) (by omega), hbits, hc]
  · have hbits : ((n / 262144 % 8 * 64 + n / 4096 % 64) * 64 + n / 64 % 64) * 64 + n % 64 = n := by
      omega
    rw [if_neg h₁, if_neg h₂, if_neg h₃, List.cons_append, List.cons_append, List.cons_append,
      List.singleton_append, unitsFrom, lead_four (by omega)]
    simp only []
    rw [unitsFrom_next (by omega) (by omega) (by split <;> omega) (by split <;> omega),
      unitsFrom_next (by omega) (by omega) (by omega) (by omega),
      unitsFrom_last (by omega) (by omega) (by omega), hbits, hc]

theorem encode_cons (c : Char) (s : List Char) : encode (c :: s) = encode [c] ++ encode s := by
  simp [encode]

theorem decodeUnits_encode (s : List Char) : decodeUnits (encode s) = s.map some := by
  induction s with
  | nil => rfl
  | cons c s ih =>
      have hone : encode [c] = String.utf8EncodeChar c := by simp [encode]
      rw [decodeUnits, encode_cons, hone, unitsFrom_encodeChar, List.map_cons, ← ih]
      rfl

/-- **The bytes of a text stand for that text.** -/
theorem decodeLossy_encode (s : List Char) : decodeLossy (encode s) = s := by
  rw [decodeLossy, decodeUnits_encode, List.map_map]
  exact List.map_id s

/-- They have no fault. -/
theorem decode?_encode (s : List Char) : decode? (encode s) = some s := by
  rw [decode?, decodeUnits_encode]
  induction s with
  | nil => rfl
  | cons c s ih =>
      rw [List.map_cons, List.mapM_cons, ih]
      rfl

/-- Two texts never have the same bytes. -/
theorem encode_injective {s t : List Char} (h : encode s = encode t) : s = t := by
  rw [← decodeLossy_encode s, h, decodeLossy_encode]

/-! ### Bytes without faults -/

/-- Where no fault is to come, a character under way goes on with a byte in its range. -/
theorem exists_further {owed low high bits : Nat} {r : List UInt8} (hlow : 0x80 ≤ low)
    (hhigh : high ≤ 0xBF) (h : none ∉ unitsFrom (some ⟨owed, low, high, bits⟩) r) :
    ∃ m rest, r = UInt8.ofNat (m + 0x80) :: rest ∧ m < 64 ∧ low ≤ m + 0x80 ∧ m + 0x80 ≤ high := by
  cases r with
  | nil => exact absurd List.mem_cons_self h
  | cons x rest =>
      rw [unitsFrom] at h
      split at h
      case isTrue hrange =>
        obtain ⟨hfrom, hto⟩ : low ≤ x.toNat ∧ x.toNat ≤ high := hrange
        refine ⟨x.toNat - 0x80, rest, ?_, by omega, by omega, by omega⟩
        rw [Nat.sub_add_cancel (by omega), UInt8.ofNat_toNat]
      case isFalse => exact absurd List.mem_cons_self h

/-- What a byte is at the start of a character, unless it can be none. -/
inductive Starts : UInt8 → Prop
  | one {n : Nat} (h : n < 0x80) : Starts (UInt8.ofNat n)
  | two {k : Nat} (hlow : 2 ≤ k) (hhigh : k < 32) : Starts (UInt8.ofNat (k + 0xC0))
  | three {k : Nat} (h : k < 16) : Starts (UInt8.ofNat (k + 0xE0))
  | four {k : Nat} (h : k < 5) : Starts (UInt8.ofNat (k + 0xF0))

theorem starts_of_lead {b : UInt8} (h : lead b ≠ .invalid) : Starts b := by
  have hb {n : Nat} (hn : b.toNat = n) : b = UInt8.ofNat n := by rw [← hn, UInt8.ofNat_toNat]
  by_cases hone : b.toNat < 0x80
  · rw [hb rfl]
    exact .one hone
  by_cases htwo : 0xC2 ≤ b.toNat ∧ b.toNat < 0xE0
  · obtain ⟨k, hk⟩ : ∃ k, b.toNat = k + 0xC0 := Nat.exists_eq_add_of_le' (by omega)
    rw [hb hk]
    exact .two (by omega) (by omega)
  by_cases hthree : 0xE0 ≤ b.toNat ∧ b.toNat < 0xF0
  · obtain ⟨k, hk⟩ : ∃ k, b.toNat = k + 0xE0 := Nat.exists_eq_add_of_le' hthree.1
    rw [hb hk]
    exact .three (by omega)
  by_cases hfour : 0xF0 ≤ b.toNat ∧ b.toNat < 0xF5
  · obtain ⟨k, hk⟩ : ∃ k, b.toNat = k + 0xF0 := Nat.exists_eq_add_of_le' hfour.1
    rw [hb hk]
    exact .four (by omega)
  -- no other byte starts a character
  refine absurd ?_ h
  unfold lead
  dsimp only
  split
  · omega
  split
  · rfl
  iterate 7
    split
    · omega
  rfl

/-! The bytes of a character, by its bits: -/

theorem encodeChar_one {n : Nat} (h : n < 0x80) :
    String.utf8EncodeChar (Char.ofNat n) = [UInt8.ofNat n] := by
  have hval : (Char.ofNat n).val.toNat = n := toNat_ofNat (by omega)
  rw [String.utf8EncodeChar, hval, if_pos (by omega)]

theorem encodeChar_two {k m : Nat} (hlow : 2 ≤ k) (hhigh : k < 32) (hm : m < 64) :
    String.utf8EncodeChar (Char.ofNat (k * 64 + m)) =
      [UInt8.ofNat (k + 0xC0), UInt8.ofNat (m + 0x80)] := by
  have hval : (Char.ofNat (k * 64 + m)).val.toNat = k * 64 + m := toNat_ofNat (by omega)
  have hfirst : (k * 64 + m) / 64 % 32 = k := by omega
  have hlast : (k * 64 + m) % 64 = m := by omega
  rw [String.utf8EncodeChar, hval, if_neg (by omega), if_pos (by omega), hfirst, hlast]

theorem encodeChar_three {k m m' : Nat} (hk : k < 16) (hm : m < 64) (hm' : m' < 64)
    (hlong : k = 0 → 0x20 ≤ m) (hsurrogate : k = 13 → m < 0x20) :
    String.utf8EncodeChar (Char.ofNat ((k * 64 + m) * 64 + m')) =
      [UInt8.ofNat (k + 0xE0), UInt8.ofNat (m + 0x80), UInt8.ofNat (m' + 0x80)] := by
  have hval : (Char.ofNat ((k * 64 + m) * 64 + m')).val.toNat = (k * 64 + m) * 64 + m' :=
    toNat_ofNat (by omega)
  have hfirst : ((k * 64 + m) * 64 + m') / 4096 % 16 = k := by omega
  have hsecond : ((k * 64 + m) * 64 + m') / 64 % 64 = m := by omega
  have hlast : ((k * 64 + m) * 64 + m') % 64 = m' := by omega
  rw [String.utf8EncodeChar, hval, if_neg (by omega), if_neg (by omega), if_pos (by omega), hfirst,
    hsecond, hlast]

theorem encodeChar_four {k m m' m'' : Nat} (hk : k < 5) (hm : m < 64) (hm' : m' < 64)
    (hm'' : m'' < 64) (hlong : k = 0 → 0x10 ≤ m) (hlarge : k = 4 → m < 0x10) :
    String.utf8EncodeChar (Char.ofNat (((k * 64 + m) * 64 + m') * 64 + m'')) =
      [UInt8.ofNat (k + 0xF0), UInt8.ofNat (m + 0x80), UInt8.ofNat (m' + 0x80),
        UInt8.ofNat (m'' + 0x80)] := by
  have hval : (Char.ofNat (((k * 64 + m) * 64 + m') * 64 + m'')).val.toNat =
      ((k * 64 + m) * 64 + m') * 64 + m'' := toNat_ofNat (by omega)
  have hfirst : (((k * 64 + m) * 64 + m') * 64 + m'') / 262144 % 8 = k := by omega
  have hsecond : (((k * 64 + m) * 64 + m') * 64 + m'') / 4096 % 64 = m := by omega
  have hthird : (((k * 64 + m) * 64 + m') * 64 + m'') / 64 % 64 = m' := by omega
  have hlast : (((k * 64 + m) * 64 + m') * 64 + m'') % 64 = m'' := by omega
  rw [String.utf8EncodeChar, hval, if_neg (by omega), if_neg (by omega), if_neg (by omega), hfirst,
    hsecond, hthird, hlast]

/-- **Where there is no fault, bytes start with those of a character.** -/
theorem exists_encodeChar {b : UInt8} {r : List UInt8} (h : none ∉ unitsFrom none (b :: r)) :
    ∃ c rest, b :: r = String.utf8EncodeChar c ++ rest := by
  have hlead : lead b ≠ .invalid := by
    intro hinvalid
    rw [unitsFrom, hinvalid] at h
    exact h List.mem_cons_self
  cases starts_of_lead hlead with
  | @one n hn => exact ⟨Char.ofNat n, r, by rw [encodeChar_one hn, List.singleton_append]⟩
  | @two k hlow hhigh =>
      rw [unitsFrom, lead_two hlow hhigh] at h
      obtain ⟨m, rest, rfl, hm, -, -⟩ := exists_further (by omega) (by omega) h
      exact ⟨_, rest, by rw [encodeChar_two hlow hhigh hm]; rfl⟩
  | @three k hk =>
      rw [unitsFrom, lead_three hk] at h
      obtain ⟨m, r, rfl, hm, hfrom, hto⟩ :=
        exists_further (by split <;> omega) (by split <;> omega) h
      dsimp only at h
      rw [unitsFrom_next (by omega) hm hfrom hto] at h
      obtain ⟨m', rest, rfl, hm', -, -⟩ := exists_further (by omega) (by omega) h
      have hlong : k = 0 → 0x20 ≤ m := by
        intro hzero
        rw [if_pos hzero] at hfrom
        omega
      have hsurrogate : k = 13 → m < 0x20 := by
        intro hthirteen
        rw [if_pos hthirteen] at hto
        omega
      exact ⟨_, rest, by rw [encodeChar_three hk hm hm' hlong hsurrogate]; rfl⟩
  | @four k hk =>
      rw [unitsFrom, lead_four hk] at h
      obtain ⟨m, r, rfl, hm, hfrom, hto⟩ :=
        exists_further (by split <;> omega) (by split <;> omega) h
      dsimp only at h
      rw [unitsFrom_next (by omega) hm hfrom hto] at h
      obtain ⟨m', r', rfl, hm', hfrom', hto'⟩ := exists_further (by omega) (by omega) h
      rw [unitsFrom_next (by omega) hm' hfrom' hto'] at h
      obtain ⟨m'', rest, rfl, hm'', -, -⟩ := exists_further (by omega) (by omega) h
      have hlong : k = 0 → 0x10 ≤ m := by
        intro hzero
        rw [if_pos hzero] at hfrom
        omega
      have hlarge : k = 4 → m < 0x10 := by
        intro hfour
        rw [if_pos hfour] at hto
        omega
      exact ⟨_, rest, by rw [encodeChar_four hk hm hm' hm'' hlong hlarge]; rfl⟩

/-- A text is read if there is no fault. -/
theorem decode?_eq_some_units {bytes : List UInt8} {s : List Char} :
    decode? bytes = some s ↔ decodeUnits bytes = s.map some := by
  unfold decode?
  generalize decodeUnits bytes = us
  induction us generalizing s with
  | nil => cases s <;> simp
  | cons u us ih =>
      cases u with
      | none => cases s <;> simp [List.mapM_cons]
      | some c =>
          cases s with
          | nil => simp [List.mapM_cons, Option.bind_eq_some_iff]
          | cons c' s =>
              simp only [List.mapM_cons, id, Option.bind_eq_bind, Option.bind_some, ih,
                Option.bind_eq_some_iff, Option.pure_def, Option.some.injEq, List.map_cons,
                List.cons.injEq]
              constructor
              · rintro ⟨t, ht, rfl, rfl⟩
                exact ⟨rfl, ht⟩
              · rintro ⟨rfl, ht⟩
                exact ⟨s, ht, rfl, rfl⟩

/-- **Only the bytes of a text stand for it.** -/
theorem decode?_eq_some_iff {bytes : List UInt8} {s : List Char} :
    decode? bytes = some s ↔ bytes = encode s := by
  constructor
  · intro h
    have hunits : unitsFrom none bytes = s.map some := decode?_eq_some_units.1 h
    clear h
    induction s generalizing bytes with
    | nil =>
        cases bytes with
        | nil => rfl
        | cons b r =>
            have hfree : none ∉ unitsFrom none (b :: r) := by simp [hunits]
            obtain ⟨c, rest, hbytes⟩ := exists_encodeChar hfree
            rw [hbytes, unitsFrom_encodeChar] at hunits
            cases hunits
    | cons c s ih =>
        cases bytes with
        | nil => cases hunits
        | cons b r =>
            have hfree : none ∉ unitsFrom none (b :: r) := by simp [hunits]
            obtain ⟨c', rest, hbytes⟩ := exists_encodeChar hfree
            rw [hbytes, unitsFrom_encodeChar, List.map_cons] at hunits
            obtain ⟨hc, hrest⟩ := List.cons.inj hunits
            cases hc
            have hone : encode [c] = String.utf8EncodeChar c := by simp [encode]
            rw [hbytes, encode_cons, hone, ih hrest]
  · rintro rfl
    exact decode?_encode s

end FirmwareCatalog.Utf8
