/-
**Reading gives back what was written.**

The catalog's records, the pairing and the settings are written as JSON and read again.  A record is
written with all its fields, in the order in which its schema lists them, so that reading it back
comes down to one law for each kind of field.  A date comes back as it was, with its offset from
universal time, and not only as the same instant.

A path can only be written if it is a text.  The paths that are read always are.

Main definitions:

* `DocumentKind` — what a JSON document may hold: a record, settings, or a list;
* `DocumentKind.read`, `DocumentKind.write?` — documents as texts;
* `DocumentKind.rewrite` — a text written anew;
* `DocumentKind.HasTexts` — documents in which all paths are texts.

Main results:

* `Firmware.reads_toJson`, `Device.reads_toJson`, `Release.reads_toJson`, `Pairing.reads_toJson`,
  `ApiSettings.reads_toJson?`, `Settings.reads_toJson?` — the records one by one;
* `DocumentKind.reads_toJson?` — all kinds, lists of lists included;
* `DocumentKind.exists_toJson?_iff` — which documents can be written;
* `DocumentKind.read_write` — **a written document is read as what it was**, and rewriting a text
  twice changes nothing after the first time.
-/
import FirmwareCatalog.Catalog.Document
import FirmwareCatalog.Catalog.Pairing
import FirmwareCatalog.Proofs.Files.Components
import FirmwareCatalog.Proofs.Json.Fields
import FirmwareCatalog.Proofs.Json.Follows
import FirmwareCatalog.Proofs.Timestamp.Text
import FirmwareCatalog.Settings.Basic

set_option relaxedAutoImplicit false
set_option autoImplicit false

namespace FirmwareCatalog

open Json (Decoder Fills Reads set_listed set_mandatory set_optional)

variable {α ρ : Type}

/-! ### Fields -/

theorem set_textField (key : String) (put : String → ρ → ρ) (s : String) (rest : List Char) :
    (textField key put).set (Json.tree rest (.string s)) = .ok (put s) :=
  set_optional (Json.reads_nullAs "" (Json.reads_text .text s) nofun) key put rest

theorem set_flagField (key : String) (put : Bool → ρ → ρ) (b : Bool) (rest : List Char) :
    (flagField key put).set (Json.tree rest (.bool b)) = .ok (put b) :=
  set_optional (Json.reads_nullAs false (Json.reads_flag b) nofun) key put rest

theorem reads_ofOption {decoder : Decoder α} {f : α → Json} (hread : ∀ a, Reads decoder (f a) a)
    (hnull : ∀ a, f a ≠ .null) (o : Option α) :
    Reads (Json.nullable decoder) (Json.ofOption f o) o := by
  cases o with
  | none => exact Json.reads_nullable_null decoder
  | some a => exact Json.reads_nullable (hread a) (hnull a)

theorem set_dateField (key : String) (put : Option Timestamp → ρ → ρ) (d : Option Timestamp)
    (rest : List Char) : (dateField key put).set (Json.tree rest (dateJson d)) = .ok (put d) := by
  have hread (t : Timestamp) : Reads (Json.formatted .timestamp fun s =>
      (Timestamp.parse s).mapError Timestamp.Refusal.message) (.string t.render) t := by
    refine Json.reads_formatted .timestamp ?_
    rw [Timestamp.parse_render]
    rfl
  exact set_optional (reads_ofOption hread (fun _ h => nomatch h) d) key put rest

theorem set_listField (key : String) {decoder : Decoder α} {toJson : α → Json}
    (hread : ∀ a, Reads decoder (toJson a) a) (put : List α → ρ → ρ) (as : List α)
    (rest : List Char) :
    (listField key decoder put).set (Json.tree rest (.array (as.map toJson))) = .ok (put as) :=
  set_optional (Json.reads_nullAs [] (Json.reads_list
    (List.forall₂_map_left_iff.2 (List.forall₂_same.2 fun a _ => hread a))) nofun) key put rest

/-! ### Records -/

/-- A written firmware is read back. -/
theorem Firmware.reads_toJson (fw : Firmware) : Reads decoder fw.toJson fw := by
  refine Json.reads_record (by decide) ?_
  refine .cons (set_textField _ _ fw.identifier) ?_
  refine .cons (set_textField _ _ fw.version) ?_
  refine .cons (set_textField _ _ fw.build) ?_
  refine .cons (set_textField _ _ fw.sha1) ?_
  refine .cons (set_textField _ _ fw.md5) ?_
  refine .cons (set_optional (Json.reads_nullAs 0 (Json.reads_unsigned64 fw.size) nofun) _ _) ?_
  refine .cons (set_textField _ _ fw.url) ?_
  refine .cons (set_dateField _ _ fw.released) ?_
  refine .cons (set_dateField _ _ fw.uploaded) ?_
  refine .cons (set_flagField _ _ fw.signed) ?_
  exact .nil fw

/-- A written device is read back, with its whole history. -/
theorem Device.reads_toJson (d : Device) : Reads decoder d.toJson d := by
  refine Json.reads_record (by decide) ?_
  refine .cons (set_textField _ _ d.name) ?_
  refine .cons (set_textField _ _ d.identifier) ?_
  refine .cons (set_textField _ _ d.board) ?_
  refine .cons (set_textField _ _ d.platform) ?_
  refine .cons (set_optional (Json.reads_nullAs 0 (Json.reads_unsigned32 d.chip) nofun) _ _) ?_
  refine .cons (set_optional (Json.reads_nullAs 0 (Json.reads_unsigned32 d.boardId) nofun) _ _) ?_
  refine .cons (set_listField _ Firmware.reads_toJson _ d.firmwares) ?_
  exact .nil d

/-- A written release is read back. -/
theorem Release.reads_toJson (r : Release) : Reads decoder r.toJson r := by
  refine Json.reads_record (by decide) ?_
  refine .cons (set_textField _ _ r.version) ?_
  refine .cons (set_textField _ _ r.build) ?_
  refine .cons (set_dateField _ _ r.released) ?_
  refine .cons (set_flagField _ _ r.beta) ?_
  refine .cons (set_flagField _ _ r.candidate) ?_
  refine .cons (set_flagField _ _ r.signed) ?_
  refine .cons (set_listField _ (Json.reads_text .text) _ r.devices) ?_
  exact .nil r

/-- A written pairing is read back. -/
theorem Pairing.reads_toJson (p : Pairing) : Reads decoder p.toJson p := by
  refine Json.reads_record (by decide) ?_
  refine .cons (set_mandatory (Json.reads_text .text p.second) _ _) ?_
  refine .cons (set_mandatory (Json.reads_text .text p.third) _ _) ?_
  refine .cons (set_mandatory (Json.reads_flag p.compatible) _ _) ?_
  exact .nil p

/-- The path of a file is read back, whether it is there or not. -/
theorem reads_path {p : Option Path} {v : Json} (h : ApiSettings.pathJson? p = some v) :
    ∃ text : Option String,
      Reads (Json.nullable (Json.text .path)) v text ∧ text.map Path.ofText = p := by
  cases p with
  | none =>
      cases h
      exact ⟨none, Json.reads_nullable_null _, rfl⟩
  | some p =>
      obtain ⟨s, hs, rfl⟩ := Option.map_eq_some_iff.1 h
      rw [Path.text?_eq_some_iff] at hs
      subst hs
      exact ⟨some s, Json.reads_nullable (Json.reads_text .path s) nofun, rfl⟩

/-- Written choices about the catalog are read back. -/
theorem ApiSettings.reads_toJson? {a : ApiSettings} {v : Json} (h : a.toJson? = some v) :
    Reads decoder v a := by
  obtain ⟨path, hpath, rfl⟩ := Option.map_eq_some_iff.1 h
  obtain ⟨text, hread, htext⟩ := reads_path hpath
  refine Json.reads_record (by decide) ?_
  refine .cons (set_optional (Json.reads_text .text a.baseUrl) _ _) ?_
  refine .cons (set_optional (Json.reads_unsigned64 a.timeout) _ _) ?_
  refine .cons (set_listed (reads_ofOption (Json.reads_text .text) (fun _ h => nomatch h) _) _ _) ?_
  refine .cons (set_listed hread _ _) ?_
  simp only [htext]
  exact .nil a

/-- Written settings are read back. -/
theorem Settings.reads_toJson? {s : Settings} {v : Json} (h : s.toJson? = some v) :
    Reads decoder v s := by
  obtain ⟨api, hapi, rfl⟩ := Option.map_eq_some_iff.1 h
  refine Json.reads_record (by decide) ?_
  refine .cons (set_optional (ApiSettings.reads_toJson? hapi) _ _) ?_
  exact .nil s

/-- The path of further certificates is a text, if there is one. -/
def ApiSettings.HasText (a : ApiSettings) : Prop := ∀ p ∈ a.certificates, ∃ s, p = Path.ofText s

theorem ApiSettings.exists_toJson?_iff {a : ApiSettings} : (∃ v, a.toJson? = some v) ↔ a.HasText := by
  have hpath : (∃ v, pathJson? a.certificates = some v) ↔ a.HasText := by
    unfold HasText
    cases a.certificates with
    | none => simp [pathJson?]
    | some p => simp [pathJson?, Path.text?_eq_some_iff]
  rw [← hpath]
  simp [toJson?]

theorem Settings.exists_toJson?_iff {s : Settings} : (∃ v, s.toJson? = some v) ↔ s.api.HasText := by
  rw [← ApiSettings.exists_toJson?_iff]
  simp [toJson?]

/-- Choices that are read have no path but a text. -/
theorem ApiSettings.gives_hasText : Json.Gives decoder ApiSettings.HasText := by
  have hany {α : Type} (decoder : Decoder α) : Json.Gives decoder fun _ => True :=
    fun _ _ _ => trivial
  refine Json.gives_record nofun fun f hf => ?_
  simp only [schema, List.mem_cons, List.not_mem_nil, or_false] at hf
  rcases hf with rfl | rfl | rfl | rfl
  · exact Json.RecordField.keeps_of_put rfl (hany _) fun _ _ _ h => h
  · exact Json.RecordField.keeps_of_put rfl (hany _) fun _ _ _ h => h
  · exact Json.RecordField.keeps_of_put rfl (hany _) fun _ _ _ h => h
  · refine Json.RecordField.keeps_of_put rfl (hany _) fun text _ _ _ p hp => ?_
    obtain ⟨s, -, rfl⟩ := Option.map_eq_some_iff.1 hp
    exact ⟨s, rfl⟩

theorem Settings.gives_hasText : Json.Gives decoder fun s => s.api.HasText := by
  refine Json.gives_record nofun fun f hf => ?_
  rw [schema, List.mem_singleton] at hf
  subst hf
  exact Json.RecordField.keeps_of_put rfl ApiSettings.gives_hasText fun _ ha _ _ => ha

/-! ### Documents -/

/-- What a JSON document may hold. -/
inductive DocumentKind where
  | device
  | firmware
  | release
  | pairing
  | apiSettings
  | settings
  | list (items : DocumentKind)
  deriving DecidableEq, Repr

namespace DocumentKind

/-- The contents of the documents of a kind. -/
def Content : DocumentKind → Type
  | device => Device
  | firmware => Firmware
  | release => Release
  | pairing => Pairing
  | apiSettings => ApiSettings
  | settings => Settings
  | list items => List items.Content

/-- Documents as JSON gives them. -/
def decoder : (kind : DocumentKind) → Decoder kind.Content
  | device => Device.decoder
  | firmware => Firmware.decoder
  | release => Release.decoder
  | pairing => Pairing.decoder
  | apiSettings => ApiSettings.decoder
  | settings => Settings.decoder
  | list items => Json.list items.decoder

/-- A document as a JSON value. -/
def toJson? : (kind : DocumentKind) → kind.Content → Option Json
  | device => fun d => some (Device.toJson d)
  | firmware => fun fw => some (Firmware.toJson fw)
  | release => fun r => some (Release.toJson r)
  | pairing => fun p => some (Pairing.toJson p)
  | apiSettings => ApiSettings.toJson?
  | settings => Settings.toJson?
  | list items => fun as => (as.mapM items.toJson?).map .array

/-- All paths of a document are texts. -/
def HasTexts : (kind : DocumentKind) → kind.Content → Prop
  | device | firmware | release | pairing => fun _ => True
  | apiSettings => ApiSettings.HasText
  | settings => fun s => ApiSettings.HasText (Settings.api s)
  | list items => fun (as : List items.Content) => ∀ a ∈ as, items.HasTexts a

/-- The document of a text. -/
def read (kind : DocumentKind) (s : String) : Except Json.Error kind.Content :=
  Json.decode kind.decoder s

/-- The text of a document. -/
def write? (kind : DocumentKind) (v : kind.Content) : Option String := (kind.toJson? v).map Json.render

/-- A text written anew, if what is read from it can be written. -/
def rewrite (kind : DocumentKind) (s : String) : Except Json.Error (Option String) :=
  (kind.read s).map kind.write?

/-- **A written document of any kind is read back**, by induction on the kind. -/
theorem reads_toJson? (kind : DocumentKind) {v : kind.Content} {j : Json}
    (h : kind.toJson? v = some j) : Reads kind.decoder j v := by
  induction kind generalizing j with
  | device =>
      cases h
      exact Device.reads_toJson v
  | firmware =>
      cases h
      exact Firmware.reads_toJson v
  | release =>
      cases h
      exact Release.reads_toJson v
  | pairing =>
      cases h
      exact Pairing.reads_toJson v
  | apiSettings => exact ApiSettings.reads_toJson? h
  | settings => exact Settings.reads_toJson? h
  | list items ih =>
      obtain ⟨js, hjs, rfl⟩ := Option.map_eq_some_iff.1 h
      refine Json.reads_list ?_
      exact (mapM_eq_some_iff.1 hjs).flip.imp fun _ _ hj => ih hj

/-- **A document can be written exactly if all its paths are texts.** -/
theorem exists_toJson?_iff (kind : DocumentKind) {v : kind.Content} :
    (∃ j, kind.toJson? v = some j) ↔ kind.HasTexts v := by
  induction kind with
  | device | firmware | release | pairing => exact ⟨fun _ => trivial, fun _ => ⟨_, rfl⟩⟩
  | apiSettings => exact ApiSettings.exists_toJson?_iff
  | settings => exact Settings.exists_toJson?_iff
  | list items ih =>
      have hitems : (∃ js, (v : List items.Content).mapM items.toJson? = some js) ↔
          (list items).HasTexts v :=
        exists_mapM_iff.trans (forall₂_congr fun _ _ => ih)
      rw [← hitems]
      exact ⟨fun ⟨j, hj⟩ => (Option.map_eq_some_iff.1 hj).imp fun _ h => h.1,
        fun ⟨js, hjs⟩ => ⟨.array js, Option.map_eq_some_iff.2 ⟨js, hjs, rfl⟩⟩⟩

theorem gives_hasTexts (kind : DocumentKind) : Json.Gives kind.decoder kind.HasTexts := by
  induction kind with
  | device | firmware | release | pairing => exact fun _ _ _ => trivial
  | apiSettings => exact ApiSettings.gives_hasText
  | settings => exact Settings.gives_hasText
  | list items ih => exact Json.gives_list ih

theorem exists_write (kind : DocumentKind) {v : kind.Content} (h : kind.HasTexts v) :
    ∃ t, kind.write? v = some t ∧ kind.read t = .ok v := by
  obtain ⟨j, hj⟩ := kind.exists_toJson?_iff.2 h
  exact ⟨j.render, by rw [write?, hj]; rfl, Json.decode_render (kind.reads_toJson? hj)⟩

/-- **A written document is read as what it was.**  It can be written exactly if all its paths are
texts.  A text that can be read is always written anew, as a text that rewriting leaves as it is. -/
theorem read_write (kind : DocumentKind) :
    (∀ v, kind.HasTexts v → ∃ t, kind.write? v = some t ∧ kind.read t = .ok v) ∧
      (∀ v, ¬ kind.HasTexts v → kind.write? v = none) ∧
      ∀ s v, kind.read s = .ok v →
        ∃ t, kind.write? v = some t ∧ kind.rewrite s = .ok (some t) ∧
          kind.read t = .ok v ∧ kind.rewrite t = .ok (some t) := by
  refine ⟨fun v => kind.exists_write, fun v hv => ?_, fun s v hread => ?_⟩
  · cases hj : kind.toJson? v with
    | none => rw [write?, hj, Option.map_none]
    | some j => exact absurd (kind.exists_toJson?_iff.1 ⟨j, hj⟩) hv
  · obtain ⟨t, ht, hagain⟩ := kind.exists_write (Json.gives_decode kind.gives_hasTexts hread)
    have hrewrite {u : String} (hu : kind.read u = .ok v) : kind.rewrite u = .ok (some t) := by
      rw [rewrite, hu, ← ht]
      rfl
    exact ⟨t, ht, hrewrite hread, hagain, hrewrite hagain⟩

def lateText : String := "\x7b\"releasedate\":\"+262142-12-31T23:59:59-23:59\"\x7d"

/-- **Not everything is written and read back**: not a path that is no text, and not a date that is
past the last year in universal time. -/
theorem not_written_or_read :
    write? settings { api := { certificates := some ⟨[0xFF]⟩ } } = none ∧
      ∃ e, read firmware lateText = .error e := by
  have hfails : (read firmware lateText).toBool = false := by decide +kernel
  refine ⟨rfl, ?_⟩
  cases hread : read firmware lateText with
  | ok fw =>
      rw [hread] at hfails
      cases hfails
  | error e => exact ⟨e, rfl⟩

end DocumentKind

end FirmwareCatalog
