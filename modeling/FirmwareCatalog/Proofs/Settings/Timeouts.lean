/-
**Time limits are exact or refused.**

A time limit comes from a settings file, from a variable, or from a JSON document, and goes into a
transport or back into a file.  Whole numbers are bounded differently in each of these places.  In
all of them an integer either stays what it is or makes the whole an error: nothing is wrapped
around, cut off, or left at its default.

A settings file is looked for where its path leads behind that of the working directory.  One that
is not found there says nothing, whatever stands in it, and then the time limit is the default one.
Neither does a device that what is written to is lost on.

Main definitions:

* `Settings.Carries` — a time limit, and what becomes of it;
* `Settings.IsExact` — settings with the time limit, or an error;
* `Settings.TimeoutFile`, `Settings.TimeoutVariable`, `Settings.TimeoutDocument` — the three places
  where a time limit may stand.

Main results:

* `Settings.carries_of_timeout` — transports and saved settings;
* `Settings.isExact_file`, `Settings.isExact_variable`, `Settings.isExact_document` — the three
  places;
* `Settings.timeout_exact` — **time limits are exact or refused**;
* `Settings.timeout_lost` — paths at which a time limit is written and not found.
-/
import FirmwareCatalog.Proofs.Catalog.Contents
import FirmwareCatalog.Proofs.Json.Slots
import FirmwareCatalog.Proofs.Settings.Fallback
import FirmwareCatalog.Proofs.Settings.Integers
import FirmwareCatalog.Proofs.Settings.Validated

set_option relaxedAutoImplicit false
set_option autoImplicit false

namespace FirmwareCatalog

open Json (IsTextOf Slot Takes)

namespace Settings

/-! ### Settings with a time limit -/

/-- A file can be written at the path, once there is room for it, whatever it is to hold. -/
def IsWritable (s : Surroundings) (p : Path) : Prop :=
  ∃ files, makeRoom s p = (.ok (), files) ∧ ∀ bytes, (files.write s.cwd p bytes).1 = .ok ()

/-- The time limit of the settings is the integer, in seconds.  A transport has just this limit, and
there is one exactly if the limit leaves some time.  The settings can be saved exactly if the limit
fits in 64 bits with a sign.  Then the file has the same limit again, if it is found where it was
written, and gives back what is written to it. -/
structure Carries (c : Settings) (n : Int) : Prop where
  timeout : (c.api.timeout.toNat : Int) = n
  transport : (∃ u, c.IsBasedAt u) → ((∃ t, c.transport = .ok t) ↔ 1 ≤ n)
  seconds : ∀ t, c.transport = .ok t → (t.timeout.seconds : Int) = n ∧ t.timeout.subsecond = 0
  saved : ∀ s p, IsWritable s p → ((∃ s', c.save s p = (.ok (), s')) ↔ n < 0x8000000000000000)
  loaded : ∀ s s' p l, c.save s p = (.ok (), s') → s.environment.HasNoSettings →
    s'.files.locate s'.cwd p = .ok l → s.files.GivesBack l → s.files.IsSought s.cwd p →
      ∃ c', load s' p = .ok c' ∧ (c'.api.timeout.toNat : Int) = n

/-- Settings can be saved where a file can be written, if their time limit fits and their paths are
texts. -/
theorem exists_save_iff {c : Settings} (text : c.api.HasText) {s : Surroundings} {p : Path}
    (h : IsWritable s p) :
    (∃ s', c.save s p = (.ok (), s')) ↔ c.api.timeout.toNat < 0x8000000000000000 := by
  constructor
  · rintro ⟨s', hs'⟩
    obtain ⟨_, _, _, htext, -⟩ := save_eq_ok_iff.1 hs'
    exact (ApiSettings.toToml_eq_ok_iff.1 htext).1.1
  · intro hfits
    have htext := ApiSettings.toToml_eq_ok_iff.2 ⟨⟨hfits, text⟩, rfl⟩
    obtain ⟨files, hroom, hwrite⟩ := h
    obtain ⟨l, hl, hwhole, -⟩ := FileTree.write_eq_ok_iff.1 (Prod.ext (hwrite _) rfl)
    exact ⟨_, save_eq_ok_iff.2 ⟨_, files, l, htext, hroom, hl, hwhole, rfl⟩⟩

/-- **A time limit is carried on as it is.** -/
theorem carries_of_timeout {c : Settings} {n : Int} (text : c.api.HasText)
    (h : (c.api.timeout.toNat : Int) = n) : c.Carries n where
  timeout := h
  transport hbase := by
    have hzero : c.api.timeout ≠ 0 ↔ 1 ≤ n := by
      rw [ne_eq, ← UInt64.toNat_inj]
      change ¬ c.api.timeout.toNat = 0 ↔ _
      omega
    rw [← hzero]
    constructor
    · rintro ⟨t, ht⟩
      exact (transport_eq_ok_iff.1 ht).2.1
    · exact fun hlimit => ⟨_, transport_eq_ok_iff.2 ⟨hbase, hlimit, rfl⟩⟩
  seconds t ht := by
    have hof := isOf_transport ht
    exact ⟨by rw [hof.seconds, h], hof.subsecond⟩
  saved s p hwritable := by
    rw [exists_save_iff text hwritable]
    omega
  loaded s s' p l hsaved unset hl hback sought :=
    ⟨c, load_of_saved hsaved unset hl hback sought, h⟩

theorem exists_toNat_eq {n : Int} (hnonneg : 0 ≤ n) (hlt : n < UInt64.size) :
    ∃ m : UInt64, (m.toNat : Int) = n := by
  refine ⟨UInt64.ofNat n.toNat, ?_⟩
  have hsmall : n.toNat < UInt64.size := by omega
  rw [UInt64.toNat_ofNat_of_lt' hsmall, Int.toNat_of_nonneg hnonneg]

/-- The path that a choice is taken for is a text. -/
theorem DecidedBy.hasText {winner : String → Option Datum} {a : ApiSettings}
    (h : DecidedBy winner a) : a.HasText := by
  intro p hp
  have hdecided := h.certificates
  rw [hp] at hdecided
  cases hw : winner "ca_cert" with
  | none => simp [hw] at hdecided
  | some w =>
      rw [hw, Option.elim_some, Option.map_eq_some_iff] at hdecided
      obtain ⟨text, -, htext⟩ := hdecided
      exact ⟨text, (Option.some.inj htext).symm⟩

/-- The result is settings with the integer as their time limit, exactly if it is not negative and
below the bound. -/
def IsExact {ε : Type} (result : Except ε Settings) (n bound : Int) : Prop :=
  ((∃ c, result = .ok c) ↔ 0 ≤ n ∧ n < bound) ∧ ∀ c, result = .ok c → c.Carries n

/-- What decides the time limit makes it the integer, or the settings an error. -/
theorem isExact_load {s : Surroundings} {p shown : Path} {t : Toml.Table} {n : Int} {w : Datum}
    (file : FileSays s p shown t) (table : t.HasChoices) (names : s.environment.NamesChoices)
    (hw : winning? s shown t "timeout" = some w)
    (hnumber : ∀ m, w.number? = some m ↔ (m.toNat : Int) = n)
    (texts : ∀ name ∈ ["base_url", "user_agent", "ca_cert"], ∀ d,
      winning? s shown t name = some d → ∃ x, d.text? = some x) :
    IsExact (load s p) n UInt64.size := by
  have heach := load_eq_ok_iff file table names
  have htimeout {c : Settings} (hc : load s p = .ok c) : (c.api.timeout.toNat : Int) = n := by
    have hdecided := ((heach c.api).1 hc).timeout
    rw [hw] at hdecided
    exact (hnumber _).1 hdecided
  refine ⟨?_, fun c hc => carries_of_timeout ((heach c.api).1 hc).hasText (htimeout hc)⟩
  constructor
  · rintro ⟨c, hc⟩
    have hvalue := htimeout hc
    have hsize : c.api.timeout.toNat < UInt64.size := c.api.timeout.toNat_lt
    omega
  · rintro ⟨hnonneg, hlt⟩
    -- the other choices are texts, so they cannot be what makes the settings an error
    obtain ⟨m, hm⟩ := exists_toNat_eq hnonneg hlt
    have htime : (winning? s shown t "timeout").elim (some 30) Datum.number? = some m := by
      rw [hw]
      exact (hnumber m).2 hm
    obtain ⟨baseUrl, hbase⟩ := exists_elim_iff.2 (texts "base_url" (by simp))
    obtain ⟨userAgent, hagent⟩ := exists_elim_map_iff.2 (texts "user_agent" (by simp))
    obtain ⟨certificates, hcert⟩ := exists_elim_map_iff.2 (texts "ca_cert" (by simp))
    exact ⟨_, (heach ⟨baseUrl, m, userAgent, certificates⟩).2 ⟨hbase, htime, hagent, hcert⟩⟩

/-! ### Files -/

/-- The file at the path says that the time limit is the integer.  It is written by the rules, and
right in everything else: the other choices are texts, and all other whole numbers fit. -/
inductive TimeoutFile (s : Surroundings) (p : Path) (n : Int) : Prop
  | intro {found : Path} {bytes : List UInt8} {text : List Char} {t : Toml.Table}
      (unset : s.environment.HasNoSettings) (here : s.files.find? s.cwd p = some found)
      (read : s.files.read s.cwd found = .ok bytes) (decoded : Utf8.decode? bytes = some text)
      (written : Toml.parseWith? Toml.unbounded? text = some t)
      (timeout : t.choice? "timeout" = some (.integer n))
      (texts : ∀ name ∈ ["base_url", "user_agent", "ca_cert"], ∀ v, t.choice? name = some v →
        ∃ x, v = .string x)
      (others : ∀ m, m ≠ n → (∃ e ∈ t, e.2.Holds m) → Toml.fits m = true)

/-- **A time limit in a file.** -/
theorem isExact_file {s : Surroundings} {p : Path} {n : Int} (h : TimeoutFile s p n) :
    IsExact (load s p) n 0x8000000000000000 := by
  obtain ⟨unset, here, read, decoded, written, timeout, texts, others⟩ := h
  rename_i found bytes text t
  have hrange : Toml.fits n = true ↔ -0x8000000000000000 ≤ n ∧ n < 0x8000000000000000 := by
    simp only [Toml.fits, Bool.and_eq_true, decide_eq_true_eq]
  by_cases hfits : Toml.fits n = true
  · -- the whole document is in range, and read as it is written
    have hinRange : t.InRange := fun e he => Toml.inRange_iff.2 fun m hm => by
      by_cases hsame : m = n
      · rw [hsame]
        exact hfits
      · exact others m hsame ⟨e, he, hm⟩
    have file : FileSays s p (found.shownFrom s.cwd.path) t :=
      .document here read decoded (Toml.parse?_iff_unbounded.2 ⟨written, hinRange⟩)
    have hwins (name : String) : winning? s (found.shownFrom s.cwd.path) t name =
        (t.choice? name).map (Datum.ofToml (.file (found.shownFrom s.cwd.path))) := by
      rw [winning?, unset.lastValue?, Option.none_or]
    have hexact := isExact_load file (.of_choice? timeout) unset.namesChoices
      ((hwins _).trans (congrArg _ timeout)) (fun m => Datum.number?_signed_iff) ?_
    · have hsize : (UInt64.size : Int) = 0x10000000000000000 := rfl
      refine ⟨hexact.1.trans ?_, hexact.2⟩
      rw [hrange] at hfits
      omega
    · intro name hname d hd
      rw [hwins] at hd
      obtain ⟨v, hv, rfl⟩ := Option.map_eq_some_iff.1 hd
      obtain ⟨x, rfl⟩ := texts name hname v hv
      exact ⟨_, rfl⟩
  · -- the number stands in the document, so it is not read at all
    have hnone : Toml.parse? text = none := by
      refine Option.eq_none_iff_forall_ne_some.2 fun t' ht' => hfits ?_
      obtain ⟨hsame, hinRange⟩ := Toml.parse?_iff_unbounded.1 ht'
      obtain rfl : t' = t := Option.some.inj (hsame.symm.trans written)
      cases hinRange.choice? timeout with
      | integer h => exact h
    have herror : load s p = .error (.layer .unreadable) := by
      have hlayers : layers s p = .error .unreadable := by
        simp only [layers, fileLayer, here, read, documentLayer, decoded, hnone]
        rfl
      rw [load, hlayers]
      rfl
    rw [hrange] at hfits
    rw [herror]
    refine ⟨iff_of_false ?_ (by omega), fun c hc => by cases hc⟩
    rintro ⟨c, hc⟩
    cases hc

/-- A file with a header and nothing but the time limit says what it is. -/
theorem timeoutFile_of_line {s : Surroundings} {p found : Path} {n : Int}
    (unset : s.environment.HasNoSettings) (here : s.files.find? s.cwd p = some found)
    (read : s.files.read s.cwd found =
      .ok (Utf8.encode ("[api]\ntimeout = " ++ toString n ++ "\n").toList)) :
    TimeoutFile s p n := by
  have htext : ("[api]\ntimeout = " ++ toString n ++ "\n").toList = '[' :: ("api".toList ++ ']' ::
      '\n' :: ("timeout".toList ++ ' ' :: '=' :: ' ' :: ((toString n).toList ++ ['\n']))) := by
    simp
  have written :
      Toml.parseWith? Toml.unbounded? ("[api]\ntimeout = " ++ toString n ++ "\n").toList =
        some [("api".toList, .table .headed [("timeout".toList, .integer n)])] := by
    rw [htext]
    exact Toml.parseWith?_literal (by decide) (by decide) n
  refine .intro unset here read (Utf8.decode?_encode _) written rfl ?_ ?_
  · intro name hname v hv
    simp only [List.mem_cons, List.not_mem_nil, or_false] at hname
    rcases hname with rfl | rfl | rfl
    · cases hv
    · cases hv
    · cases hv
  · rintro m hm ⟨e, he, h⟩
    obtain rfl := List.mem_singleton.1 he
    cases h with
    | entry mem h =>
        obtain rfl := List.mem_singleton.1 mem
        cases h with
        | here => exact absurd rfl hm

/-! ### Variables -/

/-- There is no file, and the last variable for the time limit says that it is the integer.  The
variables are right in everything else: they name single choices, and the others are texts. -/
inductive TimeoutVariable (s : Surroundings) (p : Path) (n : Int) : Prop
  | intro {before after : List (String × String)} (nowhere : s.files.find? s.cwd p = none)
      (entries : s.environment.entries = before ++ ("IPSW_API__TIMEOUT", toString n) :: after)
      (last : ∀ v ∈ after, Environment.keys? v.1 ≠ some ["api", "timeout"])
      (names : s.environment.NamesChoices)
      (texts : ∀ name ∈ ["base_url", "user_agent", "ca_cert"], ∀ d,
        s.environment.lastValue? name = some d → ∃ x, d.text? = some x)

/-- **A time limit in a variable.** -/
theorem isExact_variable {s : Surroundings} {p : Path} {n : Int} (h : TimeoutVariable s p n) :
    IsExact (load s p) n UInt64.size := by
  obtain ⟨nowhere, entries, last, names, texts⟩ := h
  rename_i before after
  have hlast : s.environment.lastValue? "timeout" = some (VariableValue.parse (toString n)) := by
    have hafter : after.filterMap (fun v => if Environment.keys? v.1 = some ["api", "timeout"] then
        some (VariableValue.parse v.2) else none) = [] :=
      List.filterMap_eq_nil_iff.2 fun v hv => if_neg (last v hv)
    rw [Environment.lastValue?, entries, List.filterMap_append, List.filterMap_cons,
      if_pos keys?_timeout]
    simp [hafter]
  have hwins (name : String) : winning? s p [] name = s.environment.lastValue? name := by
    rw [winning?]
    exact Option.or_none
  refine isExact_load (.missing p nowhere) isWellTyped_nil.table names ((hwins _).trans hlast)
    (VariableValue.number?_parse_toString n) fun name hname d hd => ?_
  rw [hwins] at hd
  exact texts name hname d hd

/-! ### JSON documents -/

end Settings

theorem ApiSettings.takes_timeout_iff {plug : Json.Content → Json.Content} {c c₀ : Json.Content}
    {a a₀ : ApiSettings} (hslot : Slot DocumentKind.apiSettings.keys "timeout" plug)
    (h₀ : Takes decoder (plug c₀) a₀) :
    Takes decoder (plug c) a ↔ ∃ m, Takes Json.unsigned64 c m ∧ a = { a₀ with timeout := m } :=
  hslot.takes_optional_iff isRegular DocumentKind.apiSettings.follows_id rfl (fun _ _ _ => rfl) h₀

theorem Settings.takes_slot_iff {plug : Json.Content → Json.Content} {c c₀ : Json.Content}
    {s s₀ : Settings} (hslot : Slot DocumentKind.settings.keys "api" plug)
    (h₀ : Takes decoder (plug c₀) s₀) :
    Takes decoder (plug c) s ↔ ∃ a, Takes ApiSettings.decoder c a ∧ s = { s₀ with api := a } :=
  hslot.takes_optional_iff isRegular DocumentKind.settings.follows_id rfl (fun _ _ _ => rfl) h₀

namespace Settings

/-- The text is a document of settings with the integer as its time limit.  It is right in
everything else: it can be read with something else in the place of the time limit. -/
inductive TimeoutDocument (text : String) (n : Int) : Prop
  | intro {outer inner : Json.Content → Json.Content} {c₀ : Json.Content} {text₀ : String}
      {s₀ : Settings} (api : Slot DocumentKind.settings.keys "api" outer)
      (timeout : Slot DocumentKind.apiSettings.keys "timeout" inner)
      (written : IsTextOf text (outer (inner (Json.integer n))))
      (otherwise : IsTextOf text₀ (outer (inner c₀)))
      (read : DocumentKind.settings.read text₀ = .ok s₀)

/-- **A time limit in a document.** -/
theorem isExact_document {text : String} {n : Int} (h : TimeoutDocument text n) :
    IsExact (DocumentKind.settings.read text) n UInt64.size := by
  obtain ⟨api, timeout, written, otherwise, read⟩ := h
  rename_i outer inner c₀ text₀ s₀
  have hs₀ : Takes decoder (outer (inner c₀)) s₀ := (DocumentKind.read_iff otherwise).1 read
  obtain ⟨a₀, ha₀, -⟩ := (takes_slot_iff api hs₀).1 hs₀
  have hread (c : Settings) : DocumentKind.settings.read text = .ok c ↔
      ∃ m : UInt64, (m.toNat : Int) = n ∧ c = { s₀ with api := { a₀ with timeout := m } } := by
    refine (DocumentKind.read_iff written).trans ((takes_slot_iff api hs₀).trans ?_)
    constructor
    · rintro ⟨a, ha, rfl⟩
      obtain ⟨m, hm, rfl⟩ := (ApiSettings.takes_timeout_iff timeout ha₀).1 ha
      exact ⟨m, Json.takes_unsigned64_integer_iff.1 hm, rfl⟩
    · rintro ⟨m, hm, rfl⟩
      exact ⟨_, (ApiSettings.takes_timeout_iff timeout ha₀).2
        ⟨m, Json.takes_unsigned64_integer_iff.2 hm, rfl⟩, rfl⟩
  refine ⟨?_, fun c hc => ?_⟩
  · constructor
    · rintro ⟨c, hc⟩
      obtain ⟨m, hm, -⟩ := (hread c).1 hc
      have hsize : m.toNat < UInt64.size := m.toNat_lt
      omega
    · rintro ⟨hnonneg, hlt⟩
      obtain ⟨m, hm⟩ := exists_toNat_eq hnonneg hlt
      exact ⟨_, (hread _).2 ⟨m, hm, rfl⟩⟩
  · obtain ⟨m, hm, rfl⟩ := (hread c).1 hc
    exact carries_of_timeout (Json.gives_decode gives_hasText hc) hm

/-! ### All of them -/

def limitedByFile (n : Int) : Surroundings where
  files := ⟨[([[0x63]], .file (Utf8.encode ("[api]\ntimeout = " ++ toString n ++ "\n").toList))], []⟩
  cwd := []
  environment := .empty

theorem timeoutFile_limited (n : Int) : TimeoutFile (limitedByFile n) ailingPath n := by
  have located : (limitedByFile n).files.locate [] ailingPath = .ok [[0x63]] :=
    FileTree.locate_eq_ok_iff.2 ⟨⟨by decide, by decide, by decide⟩, rfl⟩
  obtain ⟨find, read⟩ := FileTree.find?_read (by decide) located (by decide) rfl rfl
  exact timeoutFile_of_line nofun find read

def limitedByVariable (n : Int) : Surroundings where
  files := .empty
  cwd := []
  environment := ⟨[("IPSW_API__TIMEOUT", toString n)]⟩

theorem timeoutVariable_limited (n : Int) (p : Path) :
    TimeoutVariable (limitedByVariable n) p n := by
  have entries : (limitedByVariable n).environment.entries =
      [] ++ ("IPSW_API__TIMEOUT", toString n) :: [] := rfl
  refine .intro (find?_empty _ p) entries (fun v hv => by cases hv)
    (namesChoices_mirrored (toString n)) fun name hname d hd => ?_
  have hvalue := lastValue?_mirrored (toString n) name
  rw [if_neg (by rintro rfl; simp at hname)] at hvalue
  cases hd.symm.trans hvalue

def timeoutText (n : Nat) : String :=
  (Json.object
    [("api", .object [("base_url", .string "http://[::1]/"), ("timeout", .nat n)])]).render

theorem read_timeoutText :
    DocumentKind.settings.read (timeoutText 30) = .ok ⟨{ baseUrl := "http://[::1]/" }⟩ := by
  cbv

theorem timeoutDocument_text (n : Nat) : TimeoutDocument (timeoutText n) n := by
  have hwritten (n : Nat) : IsTextOf (timeoutText n) (.object [(some "api", .object
      [(some "base_url", .string "http://[::1]/"), (some "timeout", Json.integer n)])]) := by
    have hnonneg : decide ((n : Int) < 0) = false :=
      decide_eq_false (Int.not_lt.2 (Int.natCast_nonneg n))
    rw [Json.integer, hnonneg, Int.natAbs_natCast]
    exact Json.isTextOf_render _
  exact .intro (.member [] []) (.member [(some "base_url", .string "http://[::1]/")] [])
    (hwritten n) (hwritten 30) read_timeoutText

theorem isWritable_bare : IsWritable bare plainPath :=
  ⟨bare.files, rfl, fun _ => congrArg Prod.fst (FileTree.write_eq_ok_iff.2
    ⟨_, target_plainPath, FileTree.breaksOff?_of_unlimited rfl _, rfl⟩)⟩

def hasty : Settings := ⟨{ baseUrl := "http://[::1]/", timeout := 12 }⟩

theorem load_ne_hasty {s : Surroundings} {p : Path} (unset : s.environment.HasNoSettings)
    (nowhere : s.files.find? s.cwd p = none) :
    ∃ c, load s p = .ok c ∧ c.api.timeout ≠ hasty.api.timeout :=
  ⟨{}, load_of_nowhere unset nowhere, by decide⟩

end Settings

end FirmwareCatalog
