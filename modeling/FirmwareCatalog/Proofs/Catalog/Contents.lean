/-
**What documents take from their contents.**

Documents of every kind go by the contents of their texts.  The records of the catalog, the pairing
and the settings are regular: each of their fields goes by the content under its key, and no two of
them change the same part.  So what is known of regular records holds for all of them, and what
holds for all records holds for all documents by induction on their kind.

Main definitions:

* `DocumentKind.keys` — the keys that a document of a kind knows.

Main results:

* `Firmware.isRegular`, `Device.isRegular`, `Release.isRegular`, `Pairing.isRegular`,
  `ApiSettings.isRegular`, `Settings.isRegular` — the records one by one;
* `DocumentKind.exists_schema` — a document is a list, or a regular record;
* `Device.takes_firmwares_iff`, `Settings.takes_api_iff` — the records inside records;
* `DocumentKind.read_iff` — **a text is read as what its content is taken for**.
-/
import FirmwareCatalog.Proofs.Catalog.Losses
import FirmwareCatalog.Proofs.Json.Records

set_option relaxedAutoImplicit false
set_option autoImplicit false

namespace FirmwareCatalog

open Json (Content FieldsFollow Follows IsTextOf RecordField Schema Takes)

/-! ### Records -/

theorem Firmware.isRegular : schema.IsRegular where
  contents := FieldsFollow.contents (fields_follow fun _ => .kept)
  keys := by decide
  commute := by
    -- every pair of fields puts two values into two different parts
    simp only [schema, List.pairwise_cons, List.forall_mem_cons, List.not_mem_nil, false_implies,
      implies_true, List.Pairwise.nil, and_true]
    repeat' apply And.intro
    all_goals exact RecordField.commutes_of_put rfl rfl fun _ _ _ => rfl

/-- Nothing is lost from a device if all its fields stay. -/
theorem Device.fields_follow_kept :
    FieldsFollow schema.fields (fun _ => .kept) (fun _ => id) id := by
  have hedit : loseInner ⟨fun _ => .kept, fun _ _ => .kept⟩ = fun _ => id := by
    funext key
    have hitem (i : Nat) : Firmware.lose (fun _ => .kept) = id := Content.lose_kept _
    unfold loseInner
    split
    · exact funext fun c => (congrArg (Content.mapItems · c) (funext hitem)).trans c.mapItems_id
    · rfl
  have hchange : without ⟨fun _ => .kept, fun _ _ => .kept⟩ = id := by
    funext d
    have hhistory : d.firmwares.mapIdx (fun _ => Firmware.without fun _ => .kept) = d.firmwares :=
      List.ext_getElem (by simp) fun i h h' => by
        rw [List.getElem_mapIdx]
        rfl
    exact congrArg (fun fws => { d with firmwares := fws }) hhistory
  have hfollow := fields_follow ⟨fun _ => .kept, fun _ _ => .kept⟩
  rwa [hedit, hchange] at hfollow

theorem Device.isRegular : schema.IsRegular where
  contents := FieldsFollow.contents fields_follow_kept
  keys := by decide
  commute := by
    simp only [schema, List.pairwise_cons, List.forall_mem_cons, List.not_mem_nil, false_implies,
      implies_true, List.Pairwise.nil, and_true]
    repeat' apply And.intro
    all_goals exact RecordField.commutes_of_put rfl rfl fun _ _ _ => rfl

theorem Release.isRegular : schema.IsRegular where
  contents := FieldsFollow.contents (fields_follow fun _ => .kept)
  keys := by decide
  commute := by
    simp only [schema, List.pairwise_cons, List.forall_mem_cons, List.not_mem_nil, false_implies,
      implies_true, List.Pairwise.nil, and_true]
    repeat' apply And.intro
    all_goals exact RecordField.commutes_of_put rfl rfl fun _ _ _ => rfl

theorem Pairing.isRegular : schema.IsRegular where
  contents := FieldsFollow.contents fields_follow
  keys := by decide
  commute := by
    simp only [schema, List.pairwise_cons, List.forall_mem_cons, List.not_mem_nil, false_implies,
      implies_true, List.Pairwise.nil, and_true]
    repeat' apply And.intro
    all_goals exact RecordField.commutes_of_put rfl rfl fun _ _ _ => rfl

theorem ApiSettings.isRegular : schema.IsRegular where
  contents := FieldsFollow.contents fields_follow
  keys := by decide
  commute := by
    simp only [schema, List.pairwise_cons, List.forall_mem_cons, List.not_mem_nil, false_implies,
      implies_true, List.Pairwise.nil, and_true]
    repeat' apply And.intro
    all_goals exact RecordField.commutes_of_put rfl rfl fun _ _ _ => rfl

theorem Settings.isRegular : schema.IsRegular where
  contents := FieldsFollow.contents fields_follow
  keys := by decide
  commute := List.pairwise_singleton _ _

/-! #### Records that may leave out all their fields -/

theorem Firmware.isFree : schema.IsFree := by
  simp [Schema.IsFree, schema, textField, dateField, flagField, RecordField.optional]

theorem Device.isFree : schema.IsFree := by
  simp [Schema.IsFree, schema, textField, listField, RecordField.optional]

theorem Release.isFree : schema.IsFree := by
  simp [Schema.IsFree, schema, textField, dateField, flagField, listField, RecordField.optional]

/-! #### Records inside records -/

/-- The history of a device, given as an array, is taken firmware by firmware. -/
theorem Device.takes_firmwares_iff {f : RecordField Device} {cs : List Content}
    {put : Device → Device} (h : schema.field? "firmwares" = some f) :
    Takes f.set (.array cs) put ↔
      ∃ fws, List.Forall₂ (Takes Firmware.decoder) cs fws ∧
        (fun d => { d with firmwares := fws }) = put := by
  have hfield : schema.field? "firmwares" =
      some (listField "firmwares" Firmware.decoder fun fws d => { d with firmwares := fws }) := rfl
  rw [hfield] at h
  cases h
  rw [listField, RecordField.optional, Json.takes_map_iff]
  simp [Json.takes_nullAs_iff, Json.takes_list_iff]

/-- **A device with a history is the device without it, and its firmwares.** -/
theorem Device.takes_history_iff {before after : List (Option String × Content)} {cs : List Content}
    {d v : Device} (hd : Takes decoder (.object (before ++ after)) d)
    (hnone : some "firmwares" ∉ (before ++ after).map (·.1)) :
    Takes decoder (.object (before ++ (some "firmwares", .array cs) :: after)) v ↔
      ∃ fws, List.Forall₂ (Takes Firmware.decoder) cs fws ∧ v = { d with firmwares := fws } := by
  have hfollows : Follows decoder id id := Json.follows_record_id fields_follow_kept
  have hgiven {fws : List Firmware} (hfws : List.Forall₂ (Takes Firmware.decoder) cs fws) :
      Takes decoder (.object (before ++ (some "firmwares", .array cs) :: after))
        { d with firmwares := fws } := by
    have hput := (takes_firmwares_iff rfl).2 ⟨fws, hfws, rfl⟩
    obtain ⟨hsaid, hmakes⟩ := (Json.takes_object_iff isRegular).1 hd
    -- the history may come first, and then it is put before all other fields
    refine (Json.takes_object_perm_iff isRegular List.perm_middle).2
      ((Json.takes_object_iff isRegular).2 ⟨List.forall_mem_cons.2 ⟨hput.isSaid, hsaid⟩, ?_⟩)
    exact .field rfl List.not_mem_nil hput (hmakes.put isRegular rfl hput hnone)
  constructor
  · intro hv
    have hmakes := ((Json.takes_object_iff isRegular).1 hv).2
    obtain ⟨put, hput⟩ := hmakes.takes_of_mem rfl (List.mem_append_right _ List.mem_cons_self)
    obtain ⟨fws, hfws, -⟩ := (takes_firmwares_iff rfl).1 hput
    exact ⟨fws, hfws, hfollows.takes_unique hv (hgiven hfws)⟩
  · rintro ⟨fws, hfws, rfl⟩
    exact hgiven hfws

/-- The choices of settings are taken as such. -/
theorem Settings.takes_api_iff {f : RecordField Settings} {c : Content} {put : Settings → Settings}
    (h : schema.field? "api" = some f) :
    Takes f.set c put ↔ ∃ a, Takes ApiSettings.decoder c a ∧ (fun s => { s with api := a }) = put := by
  have hfield : schema.field? "api" =
      some (.optional "api" ApiSettings.decoder fun a s => { s with api := a }) := rfl
  rw [hfield] at h
  cases h
  exact Json.takes_map_iff

/-! ### Documents -/

namespace DocumentKind

/-- The keys that a document of a kind knows.  A list has none. -/
def keys : DocumentKind → List String
  | device => Device.schema.fields.map (·.key)
  | firmware => Firmware.schema.fields.map (·.key)
  | release => Release.schema.fields.map (·.key)
  | pairing => Pairing.schema.fields.map (·.key)
  | apiSettings => ApiSettings.schema.fields.map (·.key)
  | settings => Settings.schema.fields.map (·.key)
  | list _ => []

/-- A document is a list, or a regular record with the keys of its kind. -/
theorem exists_schema (kind : DocumentKind) :
    (∃ items, kind = list items) ∨ ∃ schema : Schema kind.Content,
      schema.IsRegular ∧ kind.decoder = Json.record schema ∧
        kind.keys = schema.fields.map (·.key) := by
  cases kind with
  | device => exact Or.inr ⟨_, Device.isRegular, rfl, rfl⟩
  | firmware => exact Or.inr ⟨_, Firmware.isRegular, rfl, rfl⟩
  | release => exact Or.inr ⟨_, Release.isRegular, rfl, rfl⟩
  | pairing => exact Or.inr ⟨_, Pairing.isRegular, rfl, rfl⟩
  | apiSettings => exact Or.inr ⟨_, ApiSettings.isRegular, rfl, rfl⟩
  | settings => exact Or.inr ⟨_, Settings.isRegular, rfl, rfl⟩
  | list items => exact Or.inl ⟨items, rfl⟩

/-- **Documents go by their contents**, by induction on their kind. -/
theorem follows_id (kind : DocumentKind) : Follows kind.decoder id id := by
  induction kind with
  | device => exact Json.follows_record_id Device.fields_follow_kept
  | firmware => exact Json.follows_record_id (Firmware.fields_follow fun _ => .kept)
  | release => exact Json.follows_record_id (Release.fields_follow fun _ => .kept)
  | pairing => exact Pairing.follows
  | apiSettings => exact ApiSettings.follows
  | settings => exact Settings.follows
  | list items ih => exact Json.follows_list_id ih

variable {kind : DocumentKind} {s : String} {c : Json.Content} {v : kind.Content}

/-- **A text is read as what its content is taken for.** -/
theorem read_iff (h : IsTextOf s c) : kind.read s = .ok v ↔ Takes kind.decoder c v :=
  kind.follows_id.decode_iff h

theorem exists_isTextOf (h : kind.read s = .ok v) : ∃ c, IsTextOf s c ∧ Takes kind.decoder c v :=
  kind.follows_id.exists_isTextOf h

theorem exists_error (h : ∀ v, kind.read s ≠ .ok v) : ∃ e, kind.read s = .error e := by
  cases hread : kind.read s with
  | ok v => exact absurd hread (h v)
  | error e => exact ⟨e, rfl⟩

end DocumentKind

end FirmwareCatalog
