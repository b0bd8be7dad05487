/-
**Bodies of another shape.**

Whoever asks for a record expects an object, and whoever asks for a list expects an array of objects.
Lists are as strict as that.  Records are not: an array stands for a record too, and gives its fields
in their order.  Since no field has to be given, an empty array is a record in which nothing is known,
so that a catalog that answers with one for a device seems to know the device.

Where no record is written as an array, the expected shapes are the only ones.  An array is never
more than the object that gives its items under the keys of the fields, and it has no more items than
there are fields.

Main definitions:

* `DocumentKind.RecordAt` — the places of a document where records are expected;
* `DocumentKind.IsShaped` — an object at each of them, and an array where a list is expected.

Main results:

* `DocumentKind.RecordAt.takes` — what stands at such a place is taken for a record;
* `DocumentKind.read_array_iff` — a record that is written as an array;
* `Client.shape_safe` — **a body of another shape is not read**, unless it has an array for a record;
* `Client.device_of_emptyArray` — an empty array is read as a device.
-/
import FirmwareCatalog.Proofs.Api.Address
import FirmwareCatalog.Proofs.Api.BuildScan
import FirmwareCatalog.Proofs.Catalog.Contents

set_option relaxedAutoImplicit false
set_option autoImplicit false

namespace FirmwareCatalog

open Json (IsTextOf Takes)

namespace DocumentKind

/-! ### Places of records -/

/-- In a content of a document, a record of some kind is expected at this place. -/
inductive RecordAt : DocumentKind → Json.Content → DocumentKind → Json.Content → Prop
  | device (c : Json.Content) : RecordAt device c device c
  | firmware (c : Json.Content) : RecordAt firmware c firmware c
  | release (c : Json.Content) : RecordAt release c release c
  /-- The records of the items of a list. -/
  | item {items kind : DocumentKind} {cs : List Json.Content} {c r : Json.Content} (hc : c ∈ cs)
      (h : RecordAt items c kind r) : RecordAt (list items) (.array cs) kind r
  /-- The firmwares in the history of a device. -/
  | history {ms : List (Option String × Json.Content)} {cs : List Json.Content} {c : Json.Content}
      (hms : (some "firmwares", .array cs) ∈ ms) (hc : c ∈ cs) :
      RecordAt device (.object ms) firmware c
  /-- The same, for a device that is written as an array. -/
  | historyItem {ds cs : List Json.Content} {c : Json.Content}
      (hds : (some "firmwares", .array cs) ∈ Json.named device.keys ds) (hc : c ∈ cs) :
      RecordAt device (.array ds) firmware c

/-- The content has the shape that is expected: an array where it is a list, and objects where
records are expected. -/
def IsShaped (kind : DocumentKind) (c : Json.Content) : Prop :=
  (∀ items, kind = list items → ∃ cs, c = .array cs) ∧
    ∀ k r, kind.RecordAt c k r → ∃ ms, r = .object ms

/-- No record is written as an array. -/
def HasNoArrays (kind : DocumentKind) (c : Json.Content) : Prop :=
  ∀ k r, kind.RecordAt c k r → ∀ cs, r ≠ .array cs

section Places

variable {kind k : DocumentKind} {c r : Json.Content}

theorem takes_of_history {ms : List (Option String × Json.Content)} {cs : List Json.Content}
    {d : Device} (hd : Takes Device.decoder (.object ms) d)
    (hms : (some "firmwares", .array cs) ∈ ms) (hc : c ∈ cs) :
    ∃ fw, Takes Firmware.decoder c fw := by
  have hmakes := ((Json.takes_object_iff Device.isRegular).1 hd).2
  obtain ⟨put, hput⟩ := hmakes.takes_of_mem rfl hms
  obtain ⟨fws, hfws, -⟩ := (Device.takes_firmwares_iff rfl).1 hput
  obtain ⟨before, after, rfl⟩ := List.append_of_mem hc
  exact Json.exists_takes_item hfws

/-- **What stands where a record is expected is taken for one**, if the document is read at all, by
induction on the place. -/
theorem RecordAt.takes (h : kind.RecordAt c k r) {v : kind.Content} (hv : Takes kind.decoder c v) :
    ∃ w, Takes k.decoder r w := by
  induction h with
  | device c => exact ⟨v, hv⟩
  | firmware c => exact ⟨v, hv⟩
  | release c => exact ⟨v, hv⟩
  | item hc _ ih =>
      obtain ⟨before, after, rfl⟩ := List.append_of_mem hc
      obtain ⟨w, hw⟩ := Json.exists_takes_item (Json.takes_list_array_iff.1 hv)
      exact ih hw
  | history hms hc => exact takes_of_history hv hms hc
  | historyItem hds hc =>
      have hobject := ((Json.takes_array_iff_object Device.isRegular Device.isFree).1 hv).2
      exact takes_of_history hobject hds hc

theorem RecordAt.exists_schema (h : kind.RecordAt c k r) : ∃ schema : Json.Schema k.Content,
    schema.IsRegular ∧ schema.IsFree ∧ k.decoder = Json.record schema ∧
      k.keys = schema.fields.map (·.key) := by
  induction h with
  | device c => exact ⟨_, Device.isRegular, Device.isFree, rfl, rfl⟩
  | firmware c => exact ⟨_, Firmware.isRegular, Firmware.isFree, rfl, rfl⟩
  | release c => exact ⟨_, Release.isRegular, Release.isFree, rfl, rfl⟩
  | item _ _ ih => exact ih
  | history _ _ => exact ⟨_, Firmware.isRegular, Firmware.isFree, rfl, rfl⟩
  | historyItem _ _ => exact ⟨_, Firmware.isRegular, Firmware.isFree, rfl, rfl⟩

/-- **Records are objects, or arrays with no more items than there are fields.** -/
theorem RecordAt.shape (h : kind.RecordAt c k r) {v : kind.Content} (hv : Takes kind.decoder c v) :
    (∃ ms, r = .object ms) ∨ ∃ cs, r = .array cs ∧ cs.length ≤ k.keys.length := by
  obtain ⟨schema, hregular, -, hdecoder, hkeys⟩ := h.exists_schema
  obtain ⟨w, hw⟩ := h.takes hv
  rw [hdecoder] at hw
  rw [hkeys, List.length_map]
  exact hregular.shape_of_takes hw

theorem isShaped_of_takes {v : kind.Content} (hv : Takes kind.decoder c v)
    (hnone : kind.HasNoArrays c) : kind.IsShaped c := by
  refine ⟨?_, fun k r hr => ?_⟩
  · rintro items rfl
    obtain ⟨cs, rfl, -⟩ := Json.takes_list_iff.1 hv
    exact ⟨cs, rfl⟩
  · rcases hr.shape hv with hobject | ⟨cs, rfl, -⟩
    · exact hobject
    · exact absurd rfl (hnone k _ hr cs)

/-- **A record that is written as an array** is read as the object that gives the items under the
keys of the fields, if it has no more items than there are fields. -/
theorem read_array_iff (hkind : kind ∈ [device, firmware, release]) {s s' : String}
    {cs : List Json.Content} (hs : IsTextOf s (.array cs))
    (hs' : IsTextOf s' (.object (Json.named kind.keys cs))) (v : kind.Content) :
    kind.read s = .ok v ↔ cs.length ≤ kind.keys.length ∧ kind.read s' = .ok v := by
  have hplace : kind.RecordAt (.array cs) kind (.array cs) := by
    simp only [List.mem_cons, List.not_mem_nil, or_false] at hkind
    rcases hkind with rfl | rfl | rfl
    · exact .device _
    · exact .firmware _
    · exact .release _
  obtain ⟨schema, hregular, hfree, hdecoder, hkeys⟩ := hplace.exists_schema
  rw [hkeys] at hs'
  rw [read_iff hs, read_iff hs', hkeys, List.length_map, hdecoder]
  exact Json.takes_array_iff_object hregular hfree

end Places

end DocumentKind

/-! ### Answers -/

namespace Client

variable {σ : Type}

/-- **A body of another shape is not read**, unless it has an array where a record is expected: the
answer is an error that shows it, and a device that gives such an answer is passed over in the search
for a build.  What is read has an object or an array at every such place, the array with no more
items than there are fields, and it is read as the object that gives its items under the keys of the
fields. -/
theorem shape_safe (kind : DocumentKind) :
    (∀ text content, IsTextOf text content → kind.HasNoArrays content →
      (∀ v, kind.read text = .ok v → kind.IsShaped content) ∧
      (¬ kind.IsShaped content → ∀ (c : Client) (e : Endpoint) (s s' : Session σ),
        c.IsAnswered e s text s' →
          (∃ reason, (c.get kind.decoder e).run s = (.error (undecodable reason text.toList), s')) ∧
          ∀ identifier build, kind = .device → e = .device identifier → ∃ reason,
            c.scanDevice identifier build s = (.skipped (undecodable reason text.toList), s'))) ∧
    (∀ text content v, IsTextOf text content → kind.read text = .ok v →
      ∀ k r, kind.RecordAt content k r →
        (∃ ms, r = .object ms) ∨ ∃ cs, r = .array cs ∧ cs.length ≤ k.keys.length) ∧
    (kind ∈ [.device, .firmware, .release] → ∀ text text' cs v, IsTextOf text (.array cs) →
      IsTextOf text' (.object (Json.named kind.keys cs)) →
        (kind.read text = .ok v ↔ cs.length ≤ kind.keys.length ∧ kind.read text' = .ok v)) := by
  have hshaped {text : String} {content : Json.Content} (htext : IsTextOf text content)
      (hnone : kind.HasNoArrays content) (v : kind.Content) (hread : kind.read text = .ok v) :
      kind.IsShaped content :=
    DocumentKind.isShaped_of_takes ((DocumentKind.read_iff htext).1 hread) hnone
  refine ⟨fun text content htext hnone => ⟨hshaped htext hnone, ?_⟩, ?_, ?_⟩
  · intro hshape c e s s' hanswer
    obtain ⟨reason, hreason⟩ : ∃ reason, kind.read text = .error reason :=
      DocumentKind.exists_error fun v hread => hshape (hshaped htext hnone v hread)
    refine ⟨⟨reason, hanswer.get_error hreason⟩, ?_⟩
    rintro identifier build rfl rfl
    exact ⟨reason, Says.scanDevice_eq (.skipped (hanswer.get_error hreason))⟩
  · intro text content v htext hread k r hr
    exact hr.shape ((DocumentKind.read_iff htext).1 hread)
  · intro hkind text text' cs v htext htext'
    exact DocumentKind.read_array_iff hkind htext htext' v

def catalogText : String := "\x7b\"devices\": []\x7d"

def itemsText : String := "[\"iPhone14,6\", null, \"19A346\"]"

def membersText : String :=
  "\x7b\"identifier\":\"iPhone14,6\",\"version\":null,\"buildid\":\"19A346\"\x7d"

theorem shape_safe_catalog :
    (∃ reason s', (Client.allDevices (.loopback [])).run (.start (.saying catalogText) ()) =
        (.error (undecodable reason catalogText.toList), s')) ∧
      DocumentKind.firmware.read itemsText =
        .ok { identifier := "iPhone14,6", build := "19A346" } := by
  have htext : IsTextOf catalogText (.object [(some "devices", .array [])]) :=
    Json.content?_eq_some_iff_isTextOf.1 (by cbv)
  have hnone : (DocumentKind.list .device).HasNoArrays (.object [(some "devices", .array [])]) := by
    intro k r hr
    cases hr
  have hshape : ¬ (DocumentKind.list .device).IsShaped (.object [(some "devices", .array [])]) := by
    rintro ⟨hlist, -⟩
    obtain ⟨cs, hcs⟩ := hlist .device rfl
    cases hcs
  have hanswer : Client.IsAnswered (.loopback []) .devices _ catalogText _ :=
    isAnswered_saying (by decide) catalogText
  obtain ⟨reason, hreason⟩ :=
    (((shape_safe (.list .device)).1 _ _ htext hnone).2 hshape _ _ _ _ hanswer).1
  have hitems : IsTextOf itemsText
      (.array [.string (some "iPhone14,6"), .null, .string (some "19A346")]) :=
    Json.content?_eq_some_iff_isTextOf.1 (by cbv)
  have hmembers : IsTextOf membersText (.object (Json.named DocumentKind.firmware.keys
      [.string (some "iPhone14,6"), .null, .string (some "19A346")])) :=
    Json.content?_eq_some_iff_isTextOf.1 (by cbv)
  refine ⟨⟨reason, _, hreason⟩, ?_⟩
  exact ((shape_safe (σ := Unit) .firmware).2.2 (by decide) _ _ _ _ hitems hmembers).2
    ⟨by decide, by cbv⟩

/-- An empty array is no object, and yet it is read as a device of which nothing is known, which does
not have the build that is looked for. -/
theorem device_of_emptyArray :
    IsTextOf "[]" (.array []) ∧ ¬ DocumentKind.device.IsShaped (.array []) ∧
      ∃ s', (Client.device (.loopback []) "iPhone12,8").run (.start (.saying "[]") ()) = (.ok {}, s') ∧
        Client.scanDevice (.loopback []) "iPhone12,8" "19A346" (.start (.saying "[]") ()) =
          (.missing, s') := by
  have hanswer : Client.IsAnswered (.loopback []) (.device "iPhone12,8") _ "[]" _ :=
    isAnswered_saying (by decide) "[]"
  have hread : DocumentKind.device.read "[]" = .ok {} := by cbv
  have hasked := hanswer.get_ok hread
  refine ⟨Json.content?_eq_some_iff_isTextOf.1 (by cbv), ?_, _, hasked,
    Says.scanDevice_eq (.missing hasked (List.forall_mem_nil _))⟩
  rintro ⟨-, hobjects⟩
  obtain ⟨ms, hms⟩ := hobjects .device _ (.device _)
  cases hms

end Client

end FirmwareCatalog
