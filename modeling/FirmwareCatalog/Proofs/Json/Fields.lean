/-
**Decoders read written values.**

A decoder sees the tree of a value, and the tree of a written value is known, so that whether a
decoder reads a value back is a question about trees only.  The fields of a record are taken one by
one: the members of its object come in the order of its fields, each under its key, and every one of
them puts its value into the record.

Main definitions:

* `Json.Reads` — a decoder reads a written value, whatever stands behind it;
* `Json.Fills` — members that give the fields of a record in order.

Main results:

* `Json.reads_text`, `Json.reads_unsigned32`, `Json.reads_list`, … — the decoders of fields;
* `Json.reads_record` — **a record is read from members that give all its fields**;
* `Json.decode_render` — whole texts.
-/
import FirmwareCatalog.Json.Record
import FirmwareCatalog.Proofs.Json.Written
import Mathlib.Data.List.Forall2

set_option relaxedAutoImplicit false
set_option autoImplicit false

namespace FirmwareCatalog.Json

variable {α ρ : Type}

/-- A decoder reads a written value as `a`, whatever stands behind it. -/
def Reads (decoder : Decoder α) (v : Json) (a : α) : Prop := ∀ rest, decoder (tree rest v) = .ok a

/-! ### Numbers -/

/-- Digits are taken as long as 64 bits hold them. -/
theorem leadingDigits_eq {ds : List Char} {n : Nat} (h : Nat.ofDigitChars 10 ds n ≤ max64) :
    leadingDigits n ds = (Nat.ofDigitChars 10 ds n, 0) := by
  induction ds generalizing n with
  | nil => simp [leadingDigits]
  | cons d ds ih =>
      rw [Nat.ofDigitChars_cons] at h ⊢
      have hcomm : n * 10 + digitValue d = 10 * n + (d.toNat - '0'.toNat) := by
        rw [digitValue, Nat.mul_comm]
      have hle := Text.le_ofDigitChars ds (10 * n + (d.toNat - '0'.toNat))
      have hfits : ¬ max64 < 10 * n + (d.toNat - '0'.toNat) := by omega
      rw [leadingDigits, hcomm, if_neg hfits]
      exact ih h

theorem read_toDigits {n : Nat} (h : n ≤ max64) (rest : List Char) :
    Numeral.read ⟨false, Nat.toDigits 10 n, none, none, rest⟩ = .ok (.natural n) := by
  have hdigits : leadingDigits 0 (Nat.toDigits 10 n) =
      (Nat.ofDigitChars 10 (Nat.toDigits 10 n) 0, 0) :=
    leadingDigits_eq (by rwa [Nat.ofDigitChars_ten_toDigits])
  rw [Nat.ofDigitChars_ten_toDigits] at hdigits
  simp [Numeral.read, hdigits]

theorem reads_unsigned (expected : Expected) {bound n : Nat} (h : n < bound) (h64 : n ≤ max64) :
    Reads (unsigned expected bound) (.nat n) n := by
  intro rest
  simp [tree, unsigned, read_toDigits h64, h]

theorem reads_unsigned32 (n : UInt32) : Reads unsigned32 (.nat n.toNat) n := by
  intro rest
  have hlt := n.toNat_lt
  have h64 : n.toNat ≤ max64 := by rw [max64]; omega
  rw [unsigned32, reads_unsigned .unsigned32 hlt h64 rest]
  simp [Except.map]

theorem reads_unsigned64 (n : UInt64) : Reads unsigned64 (.nat n.toNat) n := by
  intro rest
  have hlt := n.toNat_lt
  have h64 : n.toNat ≤ max64 := by rw [max64]; omega
  rw [unsigned64, reads_unsigned .unsigned64 hlt h64 rest]
  simp [Except.map]

/-! ### Texts, truth values and what may be missing -/

theorem reads_text (expected : Expected) (s : String) : Reads (text expected) (.string s) s :=
  fun _ => rfl

theorem reads_flag (b : Bool) : Reads flag (.bool b) b := fun _ => rfl

theorem reads_formatted (expected : Expected) {readText : String → Except String α} {s : String}
    {a : α} (h : readText s = .ok a) : Reads (formatted expected readText) (.string s) a := by
  intro rest
  simp only [tree, formatted, h]

theorem reads_nullable_null (decoder : Decoder α) : Reads (nullable decoder) .null none :=
  fun _ => rfl

theorem reads_nullable {decoder : Decoder α} {v : Json} {a : α} (h : Reads decoder v a)
    (hv : v ≠ .null) : Reads (nullable decoder) v (some a) := by
  intro rest
  have hread := h rest
  cases v with
  | null => exact absurd rfl hv
  | _ => simp only [tree] at hread ⊢; simp only [nullable, hread, Except.map]

theorem reads_nullAs {decoder : Decoder α} {v : Json} {a : α} (default : α)
    (h : Reads decoder v a) (hv : v ≠ .null) : Reads (nullAs default decoder) v a := by
  intro rest
  rw [nullAs, reads_nullable h hv rest]
  rfl

/-! ### Lists -/

/-- Items that are read one by one make a list that is read. -/
theorem reads_list {decoder : Decoder α} {vs : List Json} {as : List α}
    (h : List.Forall₂ (Reads decoder) vs as) : Reads (list decoder) (.array vs) as := by
  intro rest
  rw [tree, list]
  induction h with
  | nil => rfl
  | cons head _ htail =>
      rw [treeItems, Items.decode, head, htail]
      rfl

/-! ### Records -/

/-- Members that give the fields of a record in order: what the fields make of a record is the
second one. -/
inductive Fills : List (RecordField ρ) → List (String × Json) → ρ → ρ → Prop
  | nil (r : ρ) : Fills [] [] r r
  | cons {f : RecordField ρ} {fs : List (RecordField ρ)} {v : Json} {ms : List (String × Json)}
      {put : ρ → ρ} {r r' : ρ} (head : ∀ rest, f.set (tree rest v) = .ok put)
      (tail : Fills fs ms (put r) r') : Fills (f :: fs) ((f.key, v) :: ms) r r'

theorem set_optional {decoder : Decoder α} {v : Json} {a : α} (h : Reads decoder v a) (key : String)
    (put : α → ρ → ρ) (rest : List Char) :
    (RecordField.optional key decoder put).set (tree rest v) = .ok (put a) := by
  simp only [RecordField.optional, h rest]
  rfl

theorem set_listed {decoder : Decoder α} {v : Json} {a : α} (h : Reads decoder v a) (key : String)
    (put : α → ρ → ρ) (rest : List Char) :
    (RecordField.listed key decoder put).set (tree rest v) = .ok (put a) := by
  simp only [RecordField.listed, h rest]
  rfl

theorem set_mandatory {decoder : Decoder α} {v : Json} {a : α} (h : Reads decoder v a) (key : String)
    (put : α → ρ → ρ) (rest : List Char) :
    (RecordField.mandatory key decoder put).set (tree rest v) = .ok (put a) := by
  simp only [RecordField.mandatory, h rest]
  rfl

/-- The field of a key is the one that has it, where no two have the same. -/
theorem Schema.field?_key {schema : Schema ρ} (hkeys : (schema.fields.map (·.key)).Nodup)
    {f : RecordField ρ} (hf : f ∈ schema.fields) : schema.field? f.key = some f := by
  rw [Schema.field?]
  generalize schema.fields = fs at hkeys hf
  induction fs with
  | nil => cases hf
  | cons g fs ih =>
      rw [List.map_cons, List.nodup_cons] at hkeys
      rcases List.mem_cons.1 hf with rfl | hf
      · simp
      · have hne : g.key ≠ f.key := fun heq => hkeys.1 (heq ▸ List.mem_map_of_mem hf)
        simpa [List.find?_cons, hne] using ih hkeys.2 hf

theorem keyFault?_unseen {k : String} {seen : List String} (h : k ∉ seen) (known : String → Bool)
    (after : List Char) : keyFault? ⟨.ok k, .ok after⟩ known seen = .ok k := by
  simp [keyFault?, h]

/-- The members of a record are decoded one by one, as long as no key has been seen before and all
fields that have to be given are. -/
theorem decode_treeMembers {schema : Schema ρ} {fs : List (RecordField ρ)}
    {ms : List (String × Json)} {r r' : ρ} (h : Fills fs ms r r') (seen : List String)
    (hfield : ∀ f ∈ fs, schema.field? f.key = some f) (hkeys : (fs.map (·.key)).Nodup)
    (hseen : ∀ f ∈ fs, f.key ∉ seen)
    (hgiven : ∀ f ∈ schema.fields, f.required = true → f.key ∈ seen ∨ f ∈ fs)
    (rest : List Char) : (treeMembers rest ms).decode schema seen r = .ok r' := by
  induction h generalizing seen with
  | nil r =>
      have hmissing : schema.missing? seen = none :=
        Schema.missing?_eq_none_iff.2 fun f hf hrequired =>
          (hgiven f hf hrequired).resolve_right List.not_mem_nil
      rw [treeMembers, Members.decode, hmissing]
  | @cons f fs v ms put r r' head tail ih =>
      rw [List.map_cons, List.nodup_cons] at hkeys
      have hfresh := hseen f List.mem_cons_self
      rw [treeMembers, Members.decode, keyFault?_unseen hfresh]
      simp only [bind, Except.bind, hfield f List.mem_cons_self, head]
      -- the key of this field joins those seen
      refine ih (f.key :: seen) (fun g hg => hfield g (List.mem_cons_of_mem _ hg)) hkeys.2 ?_ ?_
      · intro g hg hmem
        rcases List.mem_cons.1 hmem with heq | hmem
        · exact hkeys.1 (heq ▸ List.mem_map_of_mem hg)
        · exact hseen g (List.mem_cons_of_mem _ hg) hmem
      · intro g hg hreq
        rcases hgiven g hg hreq with hmem | hmem
        · exact Or.inl (List.mem_cons_of_mem _ hmem)
        · rcases List.mem_cons.1 hmem with rfl | hmem
          · exact Or.inl List.mem_cons_self
          · exact Or.inr hmem

/-- **A record is read from members that give all its fields.** -/
theorem reads_record {schema : Schema ρ} {ms : List (String × Json)} {r : ρ}
    (hkeys : (schema.fields.map (·.key)).Nodup) (h : Fills schema.fields ms schema.blank r) :
    Reads (record schema) (.object ms) r := by
  intro rest
  rw [tree, record]
  exact decode_treeMembers h [] (fun f hf => Schema.field?_key hkeys hf) hkeys (by simp)
    (fun f hf _ => Or.inr hf) rest

/-! ### Whole texts -/

/-- **The text of a value that a decoder reads is decoded.** -/
theorem decode_render {decoder : Decoder α} {v : Json} {a : α} (h : Reads decoder v a) :
    decode decoder v.render = .ok a := by
  have hread := h []
  rw [decode, decodeChars, read_render]
  simp only [bind, Except.bind, hread, after?_tree]
  rfl

end FirmwareCatalog.Json
