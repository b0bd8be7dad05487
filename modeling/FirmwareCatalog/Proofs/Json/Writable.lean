/-
**Texts with a given content.**

Contents come from texts, and what is made of them, by taking something away or by putting `null` in
its place, is the content of a text again.  The one thing that a content cannot have is a number
that no literal stands for, such as one without digits.

That the content of a text has no such number is an induction on the rules by which the text is
written, and that there is a text for every content without them is an induction on the content.

Main definitions:

* `Json.Content.IsWritable` — what can be written.

Main results:

* `Json.isWritable_of_content?` — contents of texts can be written;
* `Json.exists_content?_eq` — **whatever can be written is the content of a text**;
* `Json.Content.IsWritable.lose`, `Json.Content.IsWritable.mapItems` — losses leave it so.
-/
import FirmwareCatalog.Proofs.Json.Follows
import FirmwareCatalog.Proofs.Json.Grammar

set_option relaxedAutoImplicit false
set_option autoImplicit false

namespace FirmwareCatalog.Json

/-! ### What can be written -/

/-- All numbers in the content are literals. -/
inductive Content.IsWritable : Content → Prop
  | null : IsWritable .null
  | bool (b : Bool) : IsWritable (.bool b)
  | number {l : Numeral} (h : l.IsLiteral) : IsWritable (.number l.bare)
  | string (s : Option String) : IsWritable (.string s)
  | array {cs : List Content} (h : ∀ c ∈ cs, IsWritable c) : IsWritable (.array cs)
  | object {ms : List (Option String × Content)} (h : ∀ m ∈ ms, IsWritable m.2) :
      IsWritable (.object ms)

/-! ### Contents of texts -/

/-- All numbers in a part of a text are literals. -/
def Part.IsWritable : Part → Prop
  | .value c => c.IsWritable
  | .items cs => ∀ c ∈ cs, c.IsWritable
  | .members ms => ∀ m ∈ ms, m.2.IsWritable

theorem SpellsUnsigned.isLiteral {l : Numeral} {s rest : List Char} (h : SpellsUnsigned s l rest) :
    l.IsLiteral := by
  cases h with
  | mk literal _ => exact literal

/-- What is written by the rules can be written. -/
theorem Spells.isWritable {s rest : List Char} {p : Part} (h : Spells s p rest) : p.IsWritable := by
  induction h with
  | null _ => exact .null
  | boolTrue _ => exact .bool true
  | boolFalse _ => exact .bool false
  | positive _ _ number => exact .number number.isLiteral
  | negative _ _ number => exact .number number.isLiteral
  | string _ _ => exact .string _
  | emptyArray _ _ => exact .array (by simp)
  | array _ _ ih => exact .array ih
  | emptyObject _ _ => exact .object (by simp)
  | object _ _ ih => exact .object ih
  | lastItem _ _ ih => exact List.forall_mem_singleton.2 ih
  | item _ _ _ ihhead ihtail => exact List.forall_mem_cons.2 ⟨ihhead, ihtail⟩
  | lastMember _ _ _ _ _ ih => exact List.forall_mem_singleton.2 ih
  | member _ _ _ _ _ _ ihvalue ihtail => exact List.forall_mem_cons.2 ⟨ihvalue, ihtail⟩

/-- **The content of a text can be written.** -/
theorem isWritable_of_content? {s : String} {c : Content} (h : content? s = some c) :
    c.IsWritable := by
  obtain ⟨rest, hspells, -⟩ := content?_eq_some_iff_isTextOf.1 h
  exact hspells.isWritable

/-! ### Writing contents -/

section Writing

variable {c : Content} {cs : List Content} {ms : List (Option String × Content)}

theorem exists_spellsText (k : Option String) :
    ∃ s o, SpellsText s o [] ∧ k = o.map String.ofList := by
  cases k with
  | some k =>
      have hread := readString_escaped k []
      exact ⟨_, readString_eq_iff.1 ⟨by rw [hread]; rfl, by rw [hread]⟩⟩
  | none =>
      have hread : (readString ['\\', 'u', 'd', '8', '0', '0', '"']).text? = none := rfl
      exact ⟨_, readString_eq_iff.1 ⟨hread, rfl⟩⟩

theorem exists_spellsExponent (o : Option Exponent) : ∃ x, SpellsExponent o x := by
  cases o with
  | none => exact ⟨_, .none⟩
  | some e =>
      cases hnegative : e.negative with
      | true => exact ⟨_, .negative (Or.inl rfl) hnegative⟩
      | false => exact ⟨_, .positive (Or.inl rfl) hnegative (Or.inl rfl)⟩

/-- Every literal can be written. -/
theorem exists_spells_number {l : Numeral} (hl : l.IsLiteral) :
    ∃ s, Spells s (.value (.number l.bare)) [] := by
  obtain ⟨x, hx⟩ := exists_spellsExponent l.exponent
  have hnumber : SpellsUnsigned _ l [] := .mk hl hx
  obtain ⟨d, u, hu, hd, -⟩ := hnumber.exists_digit
  have hne := ne_of_isDigit hd
  simp only [List.mem_cons, List.not_mem_nil, or_false, not_or] at hne
  cases hnegative : l.negative with
  | true => exact ⟨_, .negative (skipBlank_cons (by decide) _) hnegative hnumber⟩
  | false =>
      refine ⟨d :: u, .positive (skipBlank_cons (by simp [hne]) u) hnegative ?_⟩
      rwa [hu] at hnumber

/-- The items of an array can be written if each of them can. -/
theorem exists_spells_items (hne : cs ≠ []) (h : ∀ c ∈ cs, ∃ s, Spells s (.value c) []) :
    ∃ s, Spells s (.items cs) [] := by
  induction cs with
  | nil => exact absurd rfl hne
  | cons c cs ih =>
      obtain ⟨⟨s, hs⟩, htail⟩ := List.forall_mem_cons.1 h
      by_cases hcs : cs = []
      · subst hcs
        exact ⟨_, .lastItem (hs.append [']']) (skipBlank_cons (by decide) _)⟩
      · obtain ⟨u, hu⟩ := ih hcs htail
        exact ⟨_, .item (hs.append (',' :: u)) (skipBlank_cons (by decide) _) hu⟩

/-- The members of an object can be written if the content of each can. -/
theorem exists_spells_members (hne : ms ≠ []) (h : ∀ m ∈ ms, ∃ s, Spells s (.value m.2) []) :
    ∃ s, Spells s (.members ms) [] := by
  induction ms with
  | nil => exact absurd rfl hne
  | cons m ms ih =>
      obtain ⟨⟨s, hs⟩, htail⟩ := List.forall_mem_cons.1 h
      obtain ⟨k, c⟩ := m
      obtain ⟨t, o, hkey, rfl⟩ := exists_spellsText k
      have hquote (u : List Char) : skipBlank ('"' :: u) = '"' :: u := skipBlank_cons (by decide) u
      have hcolon (u : List Char) : skipBlank (':' :: u) = ':' :: u := skipBlank_cons (by decide) u
      by_cases hms : ms = []
      · subst hms
        exact ⟨_, .lastMember (hquote _) (hkey.append (':' :: (s ++ ['\x7d']))) (hcolon _)
          (hs.append ['\x7d']) (skipBlank_cons (by decide) _)⟩
      · obtain ⟨u, hu⟩ := ih hms htail
        exact ⟨_, .member (hquote _) (hkey.append (':' :: (s ++ ',' :: u))) (hcolon _)
          (hs.append (',' :: u)) (skipBlank_cons (by decide) _) hu⟩

/-- Whatever can be written is written by the rules, by induction on the content. -/
theorem Content.IsWritable.exists_spells (h : c.IsWritable) : ∃ s, Spells s (.value c) [] := by
  induction h with
  | null => exact ⟨_, .null (skipBlank_cons (by decide) _)⟩
  | bool b =>
      cases b with
      | true => exact ⟨_, .boolTrue (skipBlank_cons (by decide) _)⟩
      | false => exact ⟨_, .boolFalse (skipBlank_cons (by decide) _)⟩
  | number hl => exact exists_spells_number hl
  | string k =>
      obtain ⟨t, o, ho, rfl⟩ := exists_spellsText k
      exact ⟨_, .string (skipBlank_cons (by decide) _) ho⟩
  | @array cs _ ih =>
      by_cases hcs : cs = []
      · subst hcs
        exact ⟨_, .emptyArray (skipBlank_cons (by decide) _) (skipBlank_cons (by decide) _)⟩
      · obtain ⟨s, hs⟩ := exists_spells_items hcs ih
        exact ⟨_, .array (skipBlank_cons (by decide) _) hs⟩
  | @object ms _ ih =>
      by_cases hms : ms = []
      · subst hms
        exact ⟨_, .emptyObject (skipBlank_cons (by decide) _) (skipBlank_cons (by decide) _)⟩
      · obtain ⟨s, hs⟩ := exists_spells_members hms ih
        exact ⟨_, .object (skipBlank_cons (by decide) _) hs⟩

/-- **Whatever can be written is the content of a text.** -/
theorem exists_content?_eq (h : c.IsWritable) : ∃ s, content? s = some c := by
  obtain ⟨s, hs⟩ := h.exists_spells
  refine ⟨String.ofList s, content?_eq_some_iff_isTextOf.2 ⟨[], ?_, rfl⟩⟩
  rwa [String.toList_ofList]

end Writing

/-! ### Losses -/

namespace Content.IsWritable

variable {c : Content} {ms : List (Option String × Content)} {cs : List Content}
variable {fates : Fates} {edit : String → Content → Content}

/-- An array can still be written if what its items have become can. -/
theorem mapItems {editItem : Nat → Content → Content} (h : c.IsWritable)
    (hedit : ∀ i c, IsWritable c → (editItem i c).IsWritable) :
    (c.mapItems editItem).IsWritable := by
  cases h with
  | array hitems =>
      refine .array fun c' hc' => ?_
      obtain ⟨i, hi, rfl⟩ := List.mem_mapIdx.1 hc'
      exact hedit i _ (hitems _ (List.getElem_mem hi))
  | null => exact .null
  | bool b => exact .bool b
  | number hl => exact .number hl
  | string o => exact .string o
  | object hmembers => exact .object hmembers

theorem loseMembers (h : ∀ m ∈ ms, m.2.IsWritable)
    (hedit : ∀ k c, IsWritable c → (edit k c).IsWritable) :
    ∀ m ∈ Json.loseMembers fates edit ms, m.2.IsWritable := by
  induction ms with
  | nil => exact h
  | cons m ms ih =>
      obtain ⟨hm, hms⟩ := List.forall_mem_cons.1 h
      obtain ⟨k, c⟩ := m
      cases k with
      | none => exact List.forall_mem_cons.2 ⟨hm, ih hms⟩
      | some k =>
          rw [Json.loseMembers]
          cases fates k with
          | kept => exact List.forall_mem_cons.2 ⟨hedit k c hm, ih hms⟩
          | nulled => exact List.forall_mem_cons.2 ⟨.null, ih hms⟩
          | dropped => exact ih hms

theorem loseItems (h : ∀ c ∈ cs, c.IsWritable)
    (hedit : ∀ k c, IsWritable c → (edit k c).IsWritable) (ks : List String) :
    ∀ c ∈ Json.loseItems fates edit ks cs, c.IsWritable := by
  induction ks generalizing cs with
  | nil => exact h
  | cons k ks ih =>
      cases cs with
      | nil => exact h
      | cons c cs =>
          obtain ⟨hc, hcs⟩ := List.forall_mem_cons.1 h
          rw [Json.loseItems]
          refine List.forall_mem_cons.2 ⟨?_, ih hcs⟩
          cases fates k with
          | kept => exact hedit k c hc
          | nulled => exact .null
          | dropped => exact .null

/-- A record can still be written if what its fields have become can. -/
theorem lose (h : c.IsWritable) (hedit : ∀ k c, IsWritable c → (edit k c).IsWritable)
    (keys : List String) : (c.lose keys fates edit).IsWritable := by
  cases h with
  | object hmembers => exact .object (loseMembers hmembers hedit)
  | array hitems => exact .array (loseItems hitems hedit keys)
  | null => exact .null
  | bool b => exact .bool b
  | number hl => exact .number hl
  | string o => exact .string o

end Content.IsWritable

end FirmwareCatalog.Json
