/-
**What a catalog does not say.**

A catalog may give any field of a record as `null`, and may leave it out.  Either way the record is
read as if it had the field's default, and nothing else about it changes; the same goes for several
fields at once, for the firmwares in the history of a device, and for records in lists.  So what is
not known about one record never keeps the others from being read.

What becomes of the fields of a record is told by their keys.  The content of the text loses what
they tell, the record loses the values, and reading leads from the one to the other.

Main definitions:

* `Firmware.without`, `Device.without`, `Release.without` — records with fields at their defaults;
* `DocumentKind.Losses` — what may be lost from a document;
* `DocumentKind.lose`, `DocumentKind.without` — contents and documents after the loss.

Main results:

* `Firmware.follows`, `Device.follows`, `Release.follows` — the records one by one;
* `DocumentKind.read_without` — **a document that is read is still read without some of its
  fields**, as the same document with these fields at their defaults.
-/
import FirmwareCatalog.Proofs.Catalog.RoundTrip
import FirmwareCatalog.Proofs.Json.Writable
import Mathlib.Data.List.Permutation

set_option relaxedAutoImplicit false
set_option autoImplicit false

namespace FirmwareCatalog

open Json (Content Decoder Fate Fates FieldFollows FieldsFollow Follows)

/-! ### Fields -/

section Fields

variable {α ρ : Type} {key : String} {fate : Fate} {change : ρ → ρ}

theorem textField_follows {put : String → ρ → ρ}
    (hput : ∀ s r, change (put s r) = put (fate.value s "") (change r))
    (hget : ∀ r, ∃ s, put s r = r) : FieldFollows (textField key put) fate id change :=
  Json.fieldFollows_optional
    (Json.follows_nullAs (Json.follows_text .text) (fun _ _ h => nomatch h) rfl rfl)
    (fun _ => rfl) hput hget

theorem flagField_follows {put : Bool → ρ → ρ}
    (hput : ∀ b r, change (put b r) = put (fate.value b false) (change r))
    (hget : ∀ r, ∃ b, put b r = r) : FieldFollows (flagField key put) fate id change :=
  Json.fieldFollows_optional
    (Json.follows_nullAs Json.follows_flag (fun _ _ h => nomatch h) rfl rfl)
    (fun _ => rfl) hput hget

theorem dateField_follows {put : Option Timestamp → ρ → ρ}
    (hput : ∀ d r, change (put d r) = put (fate.value d none) (change r))
    (hget : ∀ r, ∃ d, put d r = r) : FieldFollows (dateField key put) fate id change := by
  have hdate := Json.follows_nullable (Json.follows_formatted .timestamp fun s =>
    (Timestamp.parse s).mapError Timestamp.Refusal.message) (fun _ _ h => nomatch h) rfl
  rw [Option.map_id] at hdate
  exact Json.fieldFollows_optional hdate (fun _ => rfl) hput hget

theorem listField_follows {decoder : Decoder α} {edit : Content → Content}
    {changeList : List α → List α} (h : Follows (Json.list decoder) edit changeList)
    (hnull : edit .null = .null) (hnil : changeList [] = []) {put : List α → ρ → ρ}
    (hput : ∀ as r, change (put as r) = put (fate.value (changeList as) []) (change r))
    (hget : ∀ r, ∃ as, put as r = r) : FieldFollows (listField key decoder put) fate edit change :=
  Json.fieldFollows_optional (Json.follows_nullAs h (fun _ _ h => nomatch h) hnull hnil)
    (fun _ => rfl) hput hget

end Fields

/-! ### Firmwares -/

namespace Firmware

/-- A firmware without what its fields have lost. -/
def without (fates : Fates) (fw : Firmware) : Firmware where
  identifier := (fates "identifier").value fw.identifier ""
  version := (fates "version").value fw.version ""
  build := (fates "buildid").value fw.build ""
  sha1 := (fates "sha1sum").value fw.sha1 ""
  md5 := (fates "md5sum").value fw.md5 ""
  size := (fates "filesize").value fw.size 0
  url := (fates "url").value fw.url ""
  released := (fates "releasedate").value fw.released none
  uploaded := (fates "uploaddate").value fw.uploaded none
  signed := (fates "signed").value fw.signed false

/-- The content of a firmware without what its fields have lost. -/
def lose (fates : Fates) : Content → Content :=
  Content.lose (schema.fields.map (·.key)) fates fun _ => id

/-- Every field of a firmware follows its loss. -/
theorem fields_follow (fates : Fates) :
    FieldsFollow schema.fields fates (fun _ => id) (without fates) := by
  have hsize : Follows (Json.nullAs 0 Json.unsigned64) id id :=
    Json.follows_nullAs Json.follows_unsigned64 (fun _ _ h => nomatch h) rfl rfl
  refine .cons (textField_follows (fun _ _ => rfl) fun fw => ⟨fw.identifier, rfl⟩) ?_
  refine .cons (textField_follows (fun _ _ => rfl) fun fw => ⟨fw.version, rfl⟩) ?_
  refine .cons (textField_follows (fun _ _ => rfl) fun fw => ⟨fw.build, rfl⟩) ?_
  refine .cons (textField_follows (fun _ _ => rfl) fun fw => ⟨fw.sha1, rfl⟩) ?_
  refine .cons (textField_follows (fun _ _ => rfl) fun fw => ⟨fw.md5, rfl⟩) ?_
  refine .cons (Json.fieldFollows_optional hsize (fun _ => rfl) (fun _ _ => rfl)
    fun fw => ⟨fw.size, rfl⟩) ?_
  refine .cons (textField_follows (fun _ _ => rfl) fun fw => ⟨fw.url, rfl⟩) ?_
  refine .cons (dateField_follows (fun _ _ => rfl) fun fw => ⟨fw.released, rfl⟩) ?_
  refine .cons (dateField_follows (fun _ _ => rfl) fun fw => ⟨fw.uploaded, rfl⟩) ?_
  refine .cons (flagField_follows (fun _ _ => rfl) fun fw => ⟨fw.signed, rfl⟩) ?_
  exact .nil

theorem without_blank (fates : Fates) : without fates {} = {} := by
  simp [without, Fate.value_self]

/-- **A firmware follows the losses of its fields.** -/
theorem follows (fates : Fates) : Follows decoder (lose fates) (without fates) :=
  Json.follows_record (fields_follow fates) (without_blank fates)

end Firmware

/-! ### Devices -/

/-- What becomes of the fields of a device, and of those of each firmware in its history. -/
structure Device.Losses where
  own : Fates
  firmwares : Nat → Fates

namespace Device

/-- A device without what its fields and its firmwares have lost. -/
def without (losses : Losses) (d : Device) : Device where
  name := (losses.own "name").value d.name ""
  identifier := (losses.own "identifier").value d.identifier ""
  board := (losses.own "boardconfig").value d.board ""
  platform := (losses.own "platform").value d.platform ""
  chip := (losses.own "cpid").value d.chip 0
  boardId := (losses.own "bdid").value d.boardId 0
  firmwares := (losses.own "firmwares").value
    (d.firmwares.mapIdx fun i => Firmware.without (losses.firmwares i)) []

def loseInner (losses : Losses) (key : String) : Content → Content :=
  if key = "firmwares" then Content.mapItems fun i => Firmware.lose (losses.firmwares i) else id

/-- The content of a device without what its fields and its firmwares have lost. -/
def lose (losses : Losses) : Content → Content :=
  Content.lose (schema.fields.map (·.key)) losses.own (loseInner losses)

/-- Every field of a device follows its loss, and the history that of its firmwares. -/
theorem fields_follow (losses : Losses) :
    FieldsFollow schema.fields losses.own (loseInner losses) (without losses) := by
  have hnumber : Follows (Json.nullAs 0 Json.unsigned32) id id :=
    Json.follows_nullAs Json.follows_unsigned32 (fun _ _ h => nomatch h) rfl rfl
  have hhistory := Json.follows_list fun i => Firmware.follows (losses.firmwares i)
  refine .cons (textField_follows (fun _ _ => rfl) fun d => ⟨d.name, rfl⟩) ?_
  refine .cons (textField_follows (fun _ _ => rfl) fun d => ⟨d.identifier, rfl⟩) ?_
  refine .cons (textField_follows (fun _ _ => rfl) fun d => ⟨d.board, rfl⟩) ?_
  refine .cons (textField_follows (fun _ _ => rfl) fun d => ⟨d.platform, rfl⟩) ?_
  refine .cons (Json.fieldFollows_optional hnumber (fun _ => rfl) (fun _ _ => rfl)
    fun d => ⟨d.chip, rfl⟩) ?_
  refine .cons (Json.fieldFollows_optional hnumber (fun _ => rfl) (fun _ _ => rfl)
    fun d => ⟨d.boardId, rfl⟩) ?_
  refine .cons (listField_follows hhistory rfl rfl (fun _ _ => rfl)
    fun d => ⟨d.firmwares, rfl⟩) ?_
  exact .nil

theorem without_blank (losses : Losses) : without losses {} = {} := by
  simp [without]

/-- **A device follows the losses of its fields and of its firmwares.** -/
theorem follows (losses : Losses) : Follows decoder (lose losses) (without losses) :=
  Json.follows_record (fields_follow losses) (without_blank losses)

end Device

/-! ### Releases -/

namespace Release

/-- A release without what its fields have lost. -/
def without (fates : Fates) (r : Release) : Release where
  version := (fates "version").value r.version ""
  build := (fates "buildid").value r.build ""
  released := (fates "released").value r.released none
  beta := (fates "beta").value r.beta false
  candidate := (fates "rc").value r.candidate false
  signed := (fates "signed").value r.signed false
  devices := (fates "deviceIds").value r.devices []

/-- The content of a release without what its fields have lost. -/
def lose (fates : Fates) : Content → Content :=
  Content.lose (schema.fields.map (·.key)) fates fun _ => id

/-- Every field of a release follows its loss. -/
theorem fields_follow (fates : Fates) :
    FieldsFollow schema.fields fates (fun _ => id) (without fates) := by
  have hdevices := Json.follows_list_id (Json.follows_text .text)
  refine .cons (textField_follows (fun _ _ => rfl) fun r => ⟨r.version, rfl⟩) ?_
  refine .cons (textField_follows (fun _ _ => rfl) fun r => ⟨r.build, rfl⟩) ?_
  refine .cons (dateField_follows (fun _ _ => rfl) fun r => ⟨r.released, rfl⟩) ?_
  refine .cons (flagField_follows (fun _ _ => rfl) fun r => ⟨r.beta, rfl⟩) ?_
  refine .cons (flagField_follows (fun _ _ => rfl) fun r => ⟨r.candidate, rfl⟩) ?_
  refine .cons (flagField_follows (fun _ _ => rfl) fun r => ⟨r.signed, rfl⟩) ?_
  refine .cons (listField_follows hdevices rfl rfl (fun _ _ => rfl)
    fun r => ⟨r.devices, rfl⟩) ?_
  exact .nil

theorem without_blank (fates : Fates) : without fates {} = {} := by
  simp [without]

/-- **A release follows the losses of its fields.** -/
theorem follows (fates : Fates) : Follows decoder (lose fates) (without fates) :=
  Json.follows_record (fields_follow fates) (without_blank fates)

end Release

/-! ### Settings -/

theorem Pairing.fields_follow :
    FieldsFollow schema.fields (fun _ => .kept) (fun _ => id) id := by
  have htext := Json.follows_text .text
  refine .cons (Json.fieldFollows_kept htext fun _ _ => rfl) ?_
  refine .cons (Json.fieldFollows_kept htext fun _ _ => rfl) ?_
  refine .cons (Json.fieldFollows_kept Json.follows_flag fun _ _ => rfl) ?_
  exact .nil

theorem Pairing.follows : Follows decoder id id := Json.follows_record_id fields_follow

theorem ApiSettings.fields_follow :
    FieldsFollow schema.fields (fun _ => .kept) (fun _ => id) id := by
  have htext (expected : Expected) := Json.follows_nullable (Json.follows_text expected)
    (fun _ _ h => nomatch h) rfl
  rw [Option.map_id] at htext
  refine .cons (Json.fieldFollows_kept (Json.follows_text .text) fun _ _ => rfl) ?_
  refine .cons (Json.fieldFollows_kept Json.follows_unsigned64 fun _ _ => rfl) ?_
  refine .cons (Json.fieldFollows_kept (htext .text) fun _ _ => rfl) ?_
  refine .cons (Json.fieldFollows_kept (htext .path) fun _ _ => rfl) ?_
  exact .nil

theorem ApiSettings.follows : Follows decoder id id := Json.follows_record_id fields_follow

theorem Settings.fields_follow :
    FieldsFollow schema.fields (fun _ => .kept) (fun _ => id) id :=
  .cons (Json.fieldFollows_kept ApiSettings.follows fun _ _ => rfl) .nil

theorem Settings.follows : Follows decoder id id := Json.follows_record_id fields_follow

/-! ### Documents -/

namespace DocumentKind

/-- What may be lost from a document: fields of catalog records, at any place in it.  Settings keep
all their fields. -/
def Losses : DocumentKind → Type
  | device => Device.Losses
  | firmware => Fates
  | release => Fates
  | pairing => Unit
  | apiSettings => Unit
  | settings => Unit
  | list items => Nat → items.Losses

/-- The content of a document after the loss. -/
def lose : (kind : DocumentKind) → kind.Losses → Json.Content → Json.Content
  | device => Device.lose
  | firmware => Firmware.lose
  | release => Release.lose
  | pairing => fun _ => id
  | apiSettings => fun _ => id
  | settings => fun _ => id
  | list items => fun losses => Json.Content.mapItems fun i => items.lose (losses i)

/-- A document after the loss: the fields that are gone are at their defaults. -/
def without : (kind : DocumentKind) → kind.Losses → kind.Content → kind.Content
  | device => Device.without
  | firmware => Firmware.without
  | release => Release.without
  | pairing => fun _ => id
  | apiSettings => fun _ => id
  | settings => fun _ => id
  | list items => fun losses => List.mapIdx fun i => items.without (losses i)

/-- **Documents follow their losses**, by induction on their kind. -/
theorem follows (kind : DocumentKind) (losses : kind.Losses) :
    Follows kind.decoder (kind.lose losses) (kind.without losses) := by
  induction kind with
  | device => exact Device.follows losses
  | firmware => exact Firmware.follows losses
  | release => exact Release.follows losses
  | pairing => exact Pairing.follows
  | apiSettings => exact ApiSettings.follows
  | settings => exact Settings.follows
  | list items ih => exact Json.follows_list fun i => ih (losses i)

/-- What is left of the content of a document can be written. -/
theorem isWritable_lose (kind : DocumentKind) (losses : kind.Losses) {c : Json.Content}
    (h : c.IsWritable) : (kind.lose losses c).IsWritable := by
  induction kind generalizing c with
  | device =>
      refine h.lose (fun k c hc => ?_) _
      unfold Device.loseInner
      split
      · exact hc.mapItems fun i c hc => hc.lose (fun _ _ hc => hc) _
      · exact hc
  | firmware => exact h.lose (fun _ _ hc => hc) _
  | release => exact h.lose (fun _ _ hc => hc) _
  | pairing => exact h
  | apiSettings => exact h
  | settings => exact h
  | list items ih => exact h.mapItems fun i c hc => ih (losses i) hc

/-- **A document that is read is still read without some of its fields.**  Whatever is set to `null`
or left out, in the records of the document and in those inside them, there are texts that say what
is left, and all of them are read as the document with just these fields at their defaults. -/
theorem read_without {kind : DocumentKind} {s : String} {v : kind.Content} (h : kind.read s = .ok v)
    (losses : kind.Losses) :
    ∃ c, Json.content? s = some c ∧ (∃ s', Json.content? s' = some (kind.lose losses c)) ∧
      ∀ s', Json.content? s' = some (kind.lose losses c) →
        kind.read s' = .ok (kind.without losses v) := by
  obtain ⟨c, hc, hfollow⟩ := Json.decode_follows (kind.follows losses) h
  have hleft := kind.isWritable_lose losses (Json.isWritable_of_content? hc)
  exact ⟨c, hc, Json.exists_content?_eq hleft, hfollow⟩

def fullText : String :=
  "\x7b\"cpid\":1,\"firmwares\":[\x7b\"filesize\":5,\"url\":\"u\"\x7d, \x7b\"signed\":true\x7d]\x7d"

def sparseText : String :=
  "\x7b\"cpid\": null, \"firmwares\": [\x7b\"filesize\": null\x7d,\x7b\"signed\":true\x7d]\x7d"

def sparseLosses : Device.Losses where
  own k := if k = "cpid" then .nulled else .kept
  firmwares i k :=
    if i = 0 ∧ k = "filesize" then .nulled else if i = 0 ∧ k = "url" then .dropped else .kept

theorem read_without_sparse :
    read .device fullText =
        .ok { chip := 1, firmwares := [{ size := 5, url := "u" }, { signed := true }] } ∧
      read .device sparseText = .ok { firmwares := [{}, { signed := true }] } := by
  have hread : read .device fullText =
      .ok { chip := 1, firmwares := [{ size := 5, url := "u" }, { signed := true }] } := by cbv
  have hlost : Json.content? sparseText =
      (Json.content? fullText).map (lose .device sparseLosses) := by cbv
  obtain ⟨c, hc, -, h⟩ := read_without hread sparseLosses
  rw [hc] at hlost
  exact ⟨hread, h sparseText hlost⟩

end DocumentKind

end FirmwareCatalog
