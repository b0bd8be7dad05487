/-
**One field of a record.**

A field is given under its key in an object, or at its place in an array.  What stands there can be
exchanged for anything else that the field takes, and the record is then the same but for this
field. So the rest of a record, read once with anything in the field, says what it is with anything
else there.

Main definitions:

* `Json.Slot` — the contents of a record around one of its fields.

Main results:

* `Json.Slot.takes_iff`, `Json.Slot.takes_optional_iff`, `Json.Slot.takes_given_iff` — **a record
  with something else in one field**;
* `Json.forall₂_takes_split` — one item of a list.
-/
import FirmwareCatalog.Proofs.Json.Integers

set_option relaxedAutoImplicit false
set_option autoImplicit false

namespace FirmwareCatalog.Json

variable {α ρ : Type}

/-- The contents of a record around what stands under a key, as an object or as an array. -/
inductive Slot (keys : List String) (key : String) : (Content → Content) → Prop
  | member (before after : List (Option String × Content)) :
      Slot keys key fun c => .object (before ++ (some key, c) :: after)
  | item {before : List Content} (after : List Content)
      (place : keys[before.length]? = some key) :
      Slot keys key fun c => .array (before ++ c :: after)

/-- The value is an object with the member. -/
def HasMember (record : Json) (key : String) (v : Json) : Prop :=
  ∃ ms, record = .object ms ∧ (key, v) ∈ ms

theorem HasMember.exists_slot {record v : Json} {key : String} (h : HasMember record key v)
    (keys : List String) : ∃ plug, Slot keys key plug ∧ record.content = plug v.content := by
  obtain ⟨ms, rfl, hmem⟩ := h
  obtain ⟨before, after, rfl⟩ := List.append_of_mem hmem
  refine ⟨_, .member (contentMembers before) (contentMembers after), ?_⟩
  rw [content, contentMembers_append, contentMembers]

theorem Slot.isWritable {keys : List String} {key : String} {plug : Content → Content}
    (h : Slot keys key plug) {c : Content} (hc : (plug c).IsWritable) : c.IsWritable := by
  cases h with
  | member before after =>
      cases hc with
      | object hmembers => exact hmembers _ (List.mem_append_right _ List.mem_cons_self)
  | item after place =>
      cases hc with
      | array hitems => exact hitems _ (List.mem_append_right _ List.mem_cons_self)

/-! ### Records -/

section Records

variable {schema : Schema ρ} {key : String} {plug : Content → Content} {f : RecordField ρ}
variable {c c₀ : Content} {v v₀ : ρ} {put : ρ → ρ}

/-- A field of an object can be given something else that it takes. -/
theorem takes_member {before after : List (Option String × Content)} (hregular : schema.IsRegular)
    (hk : schema.field? key = some f)
    (hover : ∀ c c' p p', Takes f.set c p → Takes f.set c' p' → ∀ r, p (p' r) = p r)
    (h₀ : Takes (record schema) (.object (before ++ (some key, c₀) :: after)) v₀)
    (hc : Takes f.set c put) :
    Takes (record schema) (.object (before ++ (some key, c) :: after)) (put v₀) := by
  -- the field may come first, in both records
  have h₀ := (takes_object_perm_iff hregular List.perm_middle).1 h₀
  refine (takes_object_perm_iff hregular List.perm_middle).2 ?_
  obtain ⟨hsaid, hmakes⟩ := (takes_object_iff hregular).1 h₀
  refine (takes_object_iff hregular).2 ⟨?_, ?_⟩
  · exact List.forall_mem_cons.2 ⟨hc.isSaid, (List.forall_mem_cons.1 hsaid).2⟩
  · cases hmakes with
    | extra unknown _ =>
        rw [hk] at unknown
        cases unknown
    | @field _ _ _ _ f₀ _ put₀ _ known fresh takes tail =>
        rw [hk] at known
        cases known
        have hms : some key ∉ (before ++ after).map (·.1) := fun hms =>
          Schema.not_makes_of_seen hk List.mem_cons_self hms tail
        have hmoved := tail.put hregular hk hc hms
        rw [hover _ _ _ _ hc takes] at hmoved
        refine .field hk fresh hc (hmoved.congr_seen fun j => ?_)
        simp

theorem MakesInOrder.after_put {fs : List (RecordField ρ)} {r : ρ} {cs : List Content}
    (h : MakesInOrder fs r cs v) (hc : Takes f.set c put) (hcommute : ∀ g ∈ fs, f.Commutes g) :
    MakesInOrder fs (put r) cs (put v) := by
  induction h with
  | done free => exact .done free
  | field takes _ ih =>
      obtain ⟨hfirst, hrest⟩ := List.forall_mem_cons.1 hcommute
      have htail := ih hrest
      rw [hfirst _ _ _ _ hc takes] at htail
      exact .field takes htail

/-- A field of an array can be given something else that it takes. -/
theorem MakesInOrder.exchange (hc : Takes f.set c put)
    (hover : ∀ c c' p p', Takes f.set c p → Takes f.set c' p' → ∀ r, p (p' r) = p r)
    {before after : List Content} :
    ∀ {fs : List (RecordField ρ)} {r : ρ}, fs.Pairwise RecordField.Commutes →
      fs[before.length]? = some f → MakesInOrder fs r (before ++ c₀ :: after) v₀ →
        MakesInOrder fs r (before ++ c :: after) (put v₀) := by
  induction before with
  | nil =>
      intro fs r hpairs hf h
      cases h with
      | field takes tail =>
          cases hf
          have htail := tail.after_put hc (List.pairwise_cons.1 hpairs).1
          rw [hover _ _ _ _ hc takes] at htail
          exact .field hc htail
  | cons d before ih =>
      intro fs r hpairs hf h
      cases h with
      | field takes tail => exact .field takes (ih (List.pairwise_cons.1 hpairs).2 hf tail)

/-- Every item that has a field is taken. -/
theorem MakesInOrder.exists_takes {before after : List Content} :
    ∀ {fs : List (RecordField ρ)} {r : ρ}, fs[before.length]? = some f →
      MakesInOrder fs r (before ++ c :: after) v → ∃ put, Takes f.set c put := by
  induction before with
  | nil =>
      intro fs r hf h
      cases h with
      | field takes tail =>
          cases hf
          exact ⟨_, takes⟩
  | cons d before ih =>
      intro fs r hf h
      cases h with
      | field takes tail => exact ih hf tail

theorem getElem?_of_field? (hregular : schema.IsRegular) (hk : schema.field? key = some f) {i : Nat}
    (place : (schema.fields.map (·.key))[i]? = some key) : schema.fields[i]? = some f := by
  rw [List.getElem?_map] at place
  obtain ⟨g, hg, rfl⟩ := Option.map_eq_some_iff.1 place
  have hsame := Schema.field?_key hregular.keys (List.mem_of_getElem? hg)
  rw [hk] at hsame
  rw [hg, Option.some.inj hsame]

/-- **A record with something else in one field** is the same but for this field. -/
theorem Slot.takes_iff (hslot : Slot (schema.fields.map (·.key)) key plug)
    (hregular : schema.IsRegular) (hfollows : Follows (record schema) id id)
    (hk : schema.field? key = some f)
    (hover : ∀ c c' p p', Takes f.set c p → Takes f.set c' p' → ∀ r, p (p' r) = p r)
    (h₀ : Takes (record schema) (plug c₀) v₀) :
    Takes (record schema) (plug c) v ↔ ∃ put, Takes f.set c put ∧ v = put v₀ := by
  have hgiven {put : ρ → ρ} (hc : Takes f.set c put) : Takes (record schema) (plug c) (put v₀) := by
    cases hslot with
    | member before after => exact takes_member hregular hk hover h₀ hc
    | item after place =>
        rw [takes_array_iff hregular] at h₀ ⊢
        exact h₀.exchange hc hover hregular.commute (getElem?_of_field? hregular hk place)
  constructor
  · intro hv
    have hput : ∃ put, Takes f.set c put := by
      cases hslot with
      | member before after =>
          have hmakes := ((takes_object_iff hregular).1 hv).2
          exact hmakes.takes_of_mem hk (List.mem_append_right _ List.mem_cons_self)
      | item after place =>
          have hmakes := (takes_array_iff hregular).1 hv
          exact hmakes.exists_takes (getElem?_of_field? hregular hk place)
    obtain ⟨put, hput⟩ := hput
    exact ⟨put, hput, hfollows.takes_unique hv (hgiven hput)⟩
  · rintro ⟨put, hput, rfl⟩
    exact hgiven hput

section Given

variable {decoder : Decoder α} {default : α} {give : α → ρ → ρ}
variable (hslot : Slot (schema.fields.map (·.key)) key plug) (hregular : schema.IsRegular)
variable (hfollows : Follows (record schema) id id)

include hslot hregular hfollows

/-- The same for a field with a default. -/
theorem Slot.takes_optional_iff (hk : schema.field? key = some (.optional key decoder give))
    (hover : ∀ a b r, give a (give b r) = give a r) (h₀ : Takes (record schema) (plug c₀) v₀) :
    Takes (record schema) (plug c) v ↔ ∃ a, Takes decoder c a ∧ v = give a v₀ := by
  have hset {c : Content} {put : ρ → ρ} : Takes (RecordField.optional key decoder give).set c put ↔
      ∃ a, Takes decoder c a ∧ give a = put :=
    takes_map_iff
  rw [hslot.takes_iff hregular hfollows hk ?_ h₀]
  · constructor
    · rintro ⟨put, hput, rfl⟩
      obtain ⟨a, ha, rfl⟩ := hset.1 hput
      exact ⟨a, ha, rfl⟩
    · rintro ⟨a, ha, rfl⟩
      exact ⟨give a, hset.2 ⟨a, ha, rfl⟩, rfl⟩
  · intro c c' p p' hp hp' r
    obtain ⟨a, -, rfl⟩ := hset.1 hp
    obtain ⟨b, -, rfl⟩ := hset.1 hp'
    exact hover a b r

/-- The same for a field that may be `null`, with anything else in it. -/
theorem Slot.takes_given_iff
    (hk : schema.field? key = some (.optional key (nullAs default decoder) give))
    (hover : ∀ a b r, give a (give b r) = give a r) (h₀ : Takes (record schema) (plug c₀) v₀)
    (hc : c ≠ .null) :
    Takes (record schema) (plug c) v ↔ ∃ a, Takes decoder c a ∧ v = give a v₀ := by
  rw [hslot.takes_optional_iff hregular hfollows hk hover h₀]
  simp only [takes_nullAs_iff, hc, false_and, false_or, ne_eq, not_false_eq_true, true_and]

end Given

end Records

/-! ### Lists -/

/-- One item of a list, and the items around it. -/
theorem forall₂_takes_split {decoder : Decoder α} {before after : List Content} {c : Content}
    {as : List α} :
    List.Forall₂ (Takes decoder) (before ++ c :: after) as ↔
      ∃ as₁ a as₂, as = as₁ ++ a :: as₂ ∧ as₁.length = before.length ∧
        List.Forall₂ (Takes decoder) before as₁ ∧ Takes decoder c a ∧
        List.Forall₂ (Takes decoder) after as₂ := by
  constructor
  · intro h
    induction before generalizing as with
    | nil =>
        obtain ⟨a, as₂, ha, hafter, rfl⟩ := List.forall₂_cons_left_iff.1 h
        exact ⟨[], a, as₂, rfl, rfl, .nil, ha, hafter⟩
    | cons d before ih =>
        obtain ⟨b, rest, hb, htail, rfl⟩ := List.forall₂_cons_left_iff.1 h
        obtain ⟨as₁, a, as₂, rfl, hlength, hbefore, ha, hafter⟩ := ih htail
        exact ⟨b :: as₁, a, as₂, rfl, congrArg Nat.succ hlength, .cons hb hbefore, ha, hafter⟩
  · rintro ⟨as₁, a, as₂, rfl, -, hbefore, ha, hafter⟩
    exact List.rel_append hbefore (.cons ha hafter)

end FirmwareCatalog.Json
