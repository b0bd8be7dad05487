/-
**Saved settings are loaded again.**

What is saved is a table with a line for each choice that is set.  Choices that are left unset have
no line, and then what holds by default decides, which is that they are unset.  So the file says of
each choice what it was, and without variables the file decides.

There are two ways in which what was written is lost.  A relative path is looked for behind the path
of the working directory, and in the directories above it, although it is written from the working
directory itself.  The two differ where the path is so long that it can be followed only without the
other in front of it: then the file is written, but it is not found again.  And a device need not
keep what is written to it.

Main definitions:

* `ApiSettings.table` — the table of the choices that are set.

Main results:

* `ApiSettings.toToml_eq_ok_iff` — which settings can be written;
* `ApiSettings.parse?_toToml` — **written settings are read back**, with any texts in them;
* `Settings.save_eq_ok_iff` — what saving does;
* `Settings.load_save` — **saved settings are loaded again**, and no other file has changed;
* `Settings.load_of_nowhere`, `Settings.load_save_lost` — paths at which nothing is found.
-/
import FirmwareCatalog.Proofs.Catalog.RoundTrip
import FirmwareCatalog.Proofs.Settings.Layering
import FirmwareCatalog.Proofs.Toml.Lines

set_option relaxedAutoImplicit false
set_option autoImplicit false

namespace FirmwareCatalog

/-! ### Written settings -/

namespace ApiSettings

open Toml (Line Reads)

def optional (key : String) (text? : Option String) : Toml.Table :=
  (text?.map fun s => (key.toList, Toml.string s.toList)).toList

/-- The table of the choices that are set. -/
def table (a : ApiSettings) : Toml.Table :=
  ("base_url".toList, .string a.baseUrl.toList) :: ("timeout".toList, .integer a.timeout.toNat) ::
    (optional "user_agent" a.userAgent ++ optional "ca_cert" (a.certificates.bind Path.text?))

abbrev lines (t : Toml.Table) : List Line := t.map fun e => .pair [e.1] e.2

theorem reads_textLine {t : Toml.Table} {s : List Char} (h : Reads (lines t) s) (key : String)
    (hkey : Toml.IsBareKey key.toList) (v : String) :
    Reads (lines ((key.toList, .string v.toList) :: t)) ((textLine key v).toList ++ s) := by
  have hline : (textLine key v).toList ++ s =
      key.toList ++ ' ' :: '=' :: ' ' :: (Toml.quote v.toList ++ '\n' :: s) := by
    simp [textLine]
  rw [hline]
  exact h.text hkey v.toList

theorem reads_numberLine {t : Toml.Table} {s : List Char} (h : Reads (lines t) s) (key : String)
    (hkey : Toml.IsBareKey key.toList) {n : Nat} (hn : n < 0x8000000000000000) :
    Reads (lines ((key.toList, .integer n) :: t))
      ((key ++ " = " ++ toString n ++ "\n").toList ++ s) := by
  have hline : (key ++ " = " ++ toString n ++ "\n").toList ++ s =
      key.toList ++ ' ' :: '=' :: ' ' :: (Nat.toDigits 10 n ++ '\n' :: s) := by
    simp
  rw [hline]
  exact h.number hkey hn

theorem reads_optionalLine {t : Toml.Table} {s : List Char} (h : Reads (lines t) s) (key : String)
    (hkey : Toml.IsBareKey key.toList) (text? : Option String) :
    Reads (lines (optional key text? ++ t)) (((text?.map (textLine key)).getD "").toList ++ s) := by
  cases text? with
  | none => exact h
  | some v => exact reads_textLine h key hkey v

theorem timeoutText_eq_ok_iff {a : ApiSettings} {text : String} :
    a.timeoutText = .ok text ↔
      a.timeout.toNat < 0x8000000000000000 ∧ text = toString a.timeout.toNat := by
  unfold timeoutText
  split
  case isTrue h => simp [h, eq_comm]
  case isFalse h => simp [h]

theorem certificatesText_eq_ok_iff {a : ApiSettings} {text : String} :
    a.certificatesText = .ok text ↔
      a.HasText ∧ text = ((a.certificates.bind Path.text?).map (textLine "ca_cert")).getD "" := by
  unfold certificatesText HasText
  cases a.certificates with
  | none => simp [eq_comm]
  | some p =>
      cases hp : p.text? with
      | none =>
          have hno (s : String) : p ≠ .ofText s := by
            rintro rfl
            rw [Path.text?_ofText] at hp
            cases hp
          simp [hp, hno]
      | some s =>
          rw [Path.text?_eq_some_iff] at hp
          simp [hp, eq_comm]

/-- **Which settings can be written**: those with a time limit that fits with a sign, and with no path
but a text. -/
theorem toToml_eq_ok_iff {a : ApiSettings} {text : String} :
    a.toToml = .ok text ↔
      (a.timeout.toNat < 0x8000000000000000 ∧ a.HasText) ∧
        text = "[api]\n" ++ textLine "base_url" a.baseUrl ++
          "timeout = " ++ toString a.timeout.toNat ++ "\n" ++
          (a.userAgent.map (textLine "user_agent")).getD "" ++
          ((a.certificates.bind Path.text?).map (textLine "ca_cert")).getD "" := by
  unfold toToml
  simp only [bind_eq_ok_iff, timeoutText_eq_ok_iff, certificatesText_eq_ok_iff]
  constructor
  · rintro ⟨_, ⟨hfits, rfl⟩, _, ⟨htext, rfl⟩, h⟩
    exact ⟨⟨hfits, htext⟩, (Except.ok.inj h).symm⟩
  · rintro ⟨⟨hfits, htext⟩, rfl⟩
    exact ⟨_, ⟨hfits, rfl⟩, _, ⟨htext, rfl⟩, rfl⟩

/-- **Written settings are read back**, with any texts in them. -/
theorem parse?_toToml {a : ApiSettings} {text : String} (h : a.toToml = .ok text) :
    Toml.parse? text.toList = some [("api".toList, .table .headed a.table)] := by
  obtain ⟨⟨hfits, -⟩, rfl⟩ := toToml_eq_ok_iff.1 h
  have hcert := reads_optionalLine (t := []) Reads.nil "ca_cert" (by decide)
    (a.certificates.bind Path.text?)
  have hagent := reads_optionalLine hcert "user_agent" (by decide) a.userAgent
  have htime := reads_numberLine hagent "timeout" (by decide) hfits
  have hbase := reads_textLine htime "base_url" (by decide) a.baseUrl
  have hall := Reads.header hbase (k := "api".toList) (by decide)
  rw [List.append_nil, List.append_nil] at hall
  have hkeys : (a.table.map Prod.fst).Nodup := by
    unfold table
    cases a.userAgent <;> cases a.certificates.bind Path.text? <;> simp [optional]
  have hread := Reads.parse? hall rfl hkeys
  refine Eq.trans (congrArg Toml.parse? ?_) hread
  simp

end ApiSettings

/-! ### Loading without variables -/

/-- No variable of an environment is a setting. -/
def Environment.HasNoSettings (e : Environment) : Prop := ∀ v ∈ e.entries, keys? v.1 = none

theorem Environment.HasNoSettings.lastValue? {e : Environment} (h : e.HasNoSettings)
    (name : String) : e.lastValue? name = none := by
  have hnone : (e.entries.filterMap fun v =>
      if keys? v.1 = some ["api", name] then some (VariableValue.parse v.2) else none) = [] := by
    refine List.filterMap_eq_nil_iff.2 fun v hv => ?_
    rw [h v hv]
    rfl
  rw [Environment.lastValue?, hnone]
  rfl

theorem Environment.HasNoSettings.namesChoices {e : Environment} (h : e.HasNoSettings) :
    e.NamesChoices := by
  intro v hv keys hkeys
  rw [h v hv] at hkeys
  cases hkeys

namespace Settings

open FileTree (Grows IsSought)

variable {c : Settings} {s s' : Surroundings} {p shown : Path}

theorem number?_signed (n : UInt64) (o : Origin) :
    (Datum.scalar o (.signed n.toNat)).number? = some n := by
  have hin : 0 ≤ (n.toNat : Int) ∧ (n.toNat : Int) < UInt64.size :=
    ⟨Int.natCast_nonneg _, Int.ofNat_lt.2 n.toNat_lt⟩
  simp only [Datum.number?, Datum.scalar?, if_pos hin, Int.toNat_natCast, UInt64.ofNat_toNat]

/-- Where nothing but the table of the choices decides, they are the ones that are loaded. -/
theorem load_of_fileSays (unset : s.environment.HasNoSettings) (text : c.api.HasText)
    (file : FileSays s p shown [("api".toList, .table .headed c.api.table)]) :
    load s p = .ok c := by
  have htable : Toml.Table.HasChoices [("api".toList, .table .headed c.api.table)] := by
    intro v hv
    cases hv
    exact ⟨_, _, rfl⟩
  have hwins (name : String) :
      winning? s shown [("api".toList, .table .headed c.api.table)] name =
        (c.api.table.get? name.toList).map (Datum.ofToml (.file shown)) := by
    rw [winning?, unset.lastValue?]
    rfl
  -- each choice is what its line says, and one that is unset has no line
  obtain ⟨a⟩ := c
  refine (load_eq_ok_iff file htable unset.namesChoices a).2 ⟨?_, ?_, ?_, ?_⟩
  · have hget : a.table.get? "base_url".toList = some (.string a.baseUrl.toList) := rfl
    rw [hwins, hget]
    simp [Datum.ofToml, Datum.text?, Datum.scalar?]
  · have hget : a.table.get? "timeout".toList = some (.integer a.timeout.toNat) := rfl
    rw [hwins, hget, Option.map_some, Option.elim_some, Datum.ofToml, number?_signed]
  · have hget : a.table.get? "user_agent".toList =
        a.userAgent.map fun s => .string s.toList := by
      unfold ApiSettings.table
      cases a.userAgent <;> cases a.certificates.bind Path.text? <;> rfl
    rw [hwins, hget]
    cases a.userAgent <;> simp [Datum.ofToml, Datum.text?, Datum.scalar?]
  · have hget : a.table.get? "ca_cert".toList =
        (a.certificates.bind Path.text?).map fun s => .string s.toList := by
      unfold ApiSettings.table
      cases a.userAgent <;> cases a.certificates.bind Path.text? <;> rfl
    rw [hwins, hget]
    cases hcert : a.certificates with
    | none => simp
    | some p =>
        obtain ⟨text, rfl⟩ := text p hcert
        simp [Datum.ofToml, Datum.text?, Datum.scalar?]

/-! ### Saving -/

theorem grows_of_makeRoom {files : FileTree} (hroom : makeRoom s p = (.ok (), files)) :
    Grows s.files files := by
  have hgrows : Grows s.files (makeRoom s p).2 := by
    unfold makeRoom
    split
    · exact Grows.refl s.files
    · exact (FileTree.makeAll_growsAlong s.cwd _ s.files).toGrows
  rwa [hroom] at hgrows

abbrev bytesOf (text : String) : List UInt8 := Utf8.encode text.toList

variable {files left : FileTree} {cwd : Location}

theorem write_eq_ok_iff :
    c.write files cwd p = (.ok (), left) ↔
      ∃ text, c.toToml = .ok text ∧ files.write cwd p (bytesOf text) = (.ok (), left) := by
  unfold write
  cases htext : c.toToml with
  | error reason => simp
  | ok text =>
      cases hwritten : files.write cwd p (bytesOf text) with
      | mk result left' => cases result <;> simp [hwritten]

/-- **What saving does.**  The settings are written where the path leads to once there is room. -/
theorem save_eq_ok_iff :
    c.save s p = (.ok (), s') ↔
      ∃ text files l, c.toToml = .ok text ∧ makeRoom s p = (.ok (), files) ∧
        files.target s.cwd p = .ok l ∧ files.breaksOff? l (bytesOf text) = none ∧
        s' = { s with files := files.fill l (bytesOf text) } := by
  unfold save
  cases hroom : makeRoom s p with
  | mk result files =>
      cases result with
      | error e => simp
      | ok u =>
          dsimp only
          cases hwritten : c.write files s.cwd p with
          | mk result left =>
              constructor
              · intro h
                cases h
                obtain ⟨text, htext, hwritten⟩ := write_eq_ok_iff.1 hwritten
                obtain ⟨l, hl, hwhole, rfl⟩ := FileTree.write_eq_ok_iff.1 hwritten
                exact ⟨text, files, l, htext, rfl, hl, hwhole, rfl⟩
              · rintro ⟨text, _, l, htext, ⟨⟩, hl, hwhole, rfl⟩
                have hagain := write_eq_ok_iff.2
                  ⟨text, htext, FileTree.write_eq_ok_iff.2 ⟨l, hl, hwhole, rfl⟩⟩
                rw [hwritten] at hagain
                cases hagain
                rfl

/-- What was saved is found where it is sought, and says what was saved. -/
theorem fileSays_of_saved (saved : c.save s p = (.ok (), s')) {l : Location}
    (hl : s'.files.locate s'.cwd p = .ok l) (hback : s.files.GivesBack l)
    (hsought : s.files.IsSought s.cwd p) :
    ∃ shown, FileSays s' p shown [("api".toList, .table .headed c.api.table)] := by
  obtain ⟨text, files, m, htext, hroom, htarget, -, rfl⟩ := save_eq_ok_iff.1 saved
  have hgrows := grows_of_makeRoom hroom
  obtain rfl : m = l := Except.ok.inj ((FileTree.locate_fill htarget _).symm.trans hl)
  obtain ⟨found, hfind, hread⟩ :=
    FileTree.find?_fill htarget (hgrows.givesBack hback) (hgrows.isSought hsought)
  exact ⟨_, .document hfind hread (Utf8.decode?_encode _) (ApiSettings.parse?_toToml htext)⟩

theorem load_of_saved (saved : c.save s p = (.ok (), s')) (unset : s.environment.HasNoSettings)
    {l : Location} (hl : s'.files.locate s'.cwd p = .ok l) (hback : s.files.GivesBack l)
    (hsought : s.files.IsSought s.cwd p) : load s' p = .ok c := by
  obtain ⟨shown, file⟩ := fileSays_of_saved saved hl hback hsought
  obtain ⟨text, files, m, htext, -, -, -, rfl⟩ := save_eq_ok_iff.1 saved
  exact load_of_fileSays unset (ApiSettings.toToml_eq_ok_iff.1 htext).1.2 file

def bare : Surroundings where
  files := ⟨[([[0x77]], .directory), ([[0x6E]], .special false [])], []⟩
  cwd := [[0x77]]
  environment := .empty

theorem inPlace_bare : bare.files.InPlace bare.cwd where
  directory := rfl
  located := FileTree.locate_eq_ok_iff.2 ⟨⟨by decide, by decide, by decide⟩, rfl⟩

def plainPath : Path := .ofText "c"

def quoted : Settings := ⟨{ baseUrl := "'a'''\"\\\n", userAgent := some "1" }⟩

theorem toToml_quoted : ∃ text, quoted.toToml = .ok text :=
  ⟨_, ApiSettings.toToml_eq_ok_iff.2 ⟨⟨by decide, fun _ hp => nomatch hp⟩, rfl⟩⟩

theorem target_plainPath : bare.files.target bare.cwd plainPath = .ok [[0x77], [0x63]] :=
  FileTree.target_eq_ok_iff.2
    ⟨FileTree.locate_eq_ok_iff.2 ⟨⟨by decide, by decide, by decide⟩, rfl⟩, by decide, by decide, rfl⟩

theorem givesBack_bare : bare.files.GivesBack [[0x77], [0x63]] := ⟨nofun, rfl⟩

/-- **Where nothing is found, the settings are the default ones.** -/
theorem load_of_nowhere (unset : s.environment.HasNoSettings)
    (nowhere : s.files.find? s.cwd p = none) : load s p = .ok {} := by
  have hwins (name : String) : winning? s p [] name = none := by
    rw [winning?, unset.lastValue?]
    rfl
  have htable : Toml.Table.HasChoices [] := fun v hv => by cases hv
  refine (load_eq_ok_iff (.missing p nowhere) htable unset.namesChoices {}).2 ⟨?_, ?_, ?_, ?_⟩
  · rw [hwins]
    rfl
  · rw [hwins]
    rfl
  · rw [hwins]
    rfl
  · rw [hwins]
    rfl

def lingering : Nat → List UInt8
  | 0 => [0x63]
  | n + 1 => Path.dot :: Path.slash :: lingering n

theorem length_lingering (n : Nat) : (lingering n).length = 2 * n + 1 := by
  induction n with
  | zero => rfl
  | succ n ih =>
      rw [lingering, List.length_cons, List.length_cons, ih]
      omega

theorem pieces_lingering (n : Nat) :
    Path.pieces (lingering n) = List.replicate n [Path.dot] ++ [[0x63]] := by
  induction n with
  | zero => rfl
  | succ n ih =>
      have hdot : lingering (n + 1) = [Path.dot] ++ Path.slash :: lingering n := rfl
      rw [hdot, Path.pieces_append, ih, List.replicate_succ]
      rfl

theorem not_mem_lingering (n : Nat) : 0 ∉ lingering n := by
  induction n with
  | zero => decide
  | succ n ih =>
      have hdot : lingering (n + 1) = [Path.dot, Path.slash] ++ lingering n := rfl
      rw [hdot, List.mem_append, not_or]
      exact ⟨by decide, ih⟩

theorem isAbsolute_lingering (n : Nat) : Path.isAbsolute ⟨lingering n⟩ = false := by
  cases n <;> rfl

theorem endsInSlash_lingering (n : Nat) : Path.endsInSlash ⟨lingering n⟩ = false := by
  have hlast : (lingering n).getLast? = some 0x63 := by
    induction n with
    | zero => rfl
    | succ n ih =>
        have hdot : lingering (n + 1) = [Path.dot, Path.slash] ++ lingering n := rfl
        have hne : lingering n ≠ [] := by
          intro hnil
          rw [hnil] at ih
          cases ih
        rw [hdot, List.getLast?_append_of_ne_nil _ hne, ih]
  rw [Path.endsInSlash, hlast]
  rfl

/-- Such a path leads to the file. -/
theorem target_lingering {n : Nat} (h : 2 * n + 1 < 4096) :
    bare.files.target bare.cwd ⟨lingering n⟩ = .ok [[0x77], [0x63]] := by
  have hfollow (n : Nat) : bare.files.follow [[0x77]] (List.replicate n [Path.dot] ++ [[0x63]]) =
      .ok [[0x77], [0x63]] := by
    induction n with
    | zero => rfl
    | succ n ih =>
        rw [List.replicate_succ, List.cons_append]
        exact FileTree.follow_cons_eq.2 ⟨rfl, rfl, ih⟩
  have hsteps : Path.steps ⟨lingering n⟩ = List.replicate n [Path.dot] ++ [[0x63]] := by
    rw [Path.steps, pieces_lingering, List.filter_eq_self]
    intro piece hpiece
    rcases List.mem_append.1 hpiece with hpiece | hpiece
    · rw [List.eq_of_mem_replicate hpiece]
      rfl
    · rw [List.mem_singleton.1 hpiece]
      rfl
  have located : bare.files.locate bare.cwd ⟨lingering n⟩ = .ok [[0x77], [0x63]] := by
    refine FileTree.locate_eq_ok_iff.2 ⟨⟨not_mem_lingering n, ?_, ?_⟩, ?_⟩
    · cases n <;> simp [lingering]
    · rwa [length_lingering]
    · rw [hsteps, FileTree.origin, isAbsolute_lingering]
      exact hfollow n
  exact FileTree.target_eq_ok_iff.2 ⟨located, endsInSlash_lingering n, by decide, rfl⟩

/-- The directory of the file is the working directory, which is there. -/
theorem makeRoom_lingering (n : Nat) :
    makeRoom bare ⟨lingering (n + 1)⟩ = (.ok (), bare.files) := by
  have hcomponents : Path.components ⟨lingering (n + 1)⟩ = [.current, .name [0x63]] := by
    have hrest : (List.replicate n [Path.dot]).filterMap Path.component? = [] := by
      refine List.filterMap_eq_nil_iff.2 fun piece hpiece => ?_
      rw [List.eq_of_mem_replicate hpiece]
      rfl
    rw [Path.components, pieces_lingering, List.replicate_succ, List.cons_append]
    change Path.componentsOf _ _ = _
    rw [Path.componentsOf_dot, List.filterMap_append, hrest]
    rfl
  -- the directory that the file is in is the working directory
  have hparent : Path.parent? ⟨lingering (n + 1)⟩ = some ⟨[Path.dot]⟩ := by
    rw [Path.parent?, hcomponents]
    rfl
  rw [makeRoom, hparent]
  rfl

def devicePath : Path := .ofText "/n"

theorem target_devicePath : bare.files.target bare.cwd devicePath = .ok [[0x6E]] :=
  FileTree.target_eq_ok_iff.2
    ⟨FileTree.locate_eq_ok_iff.2 ⟨⟨by decide, by decide, by decide⟩, rfl⟩, by decide, by decide, rfl⟩

def patient : Settings := ⟨{ baseUrl := "http://a/", timeout := 12 }⟩

theorem load_ne_patient {s : Surroundings} {p : Path} (unset : s.environment.HasNoSettings)
    (nowhere : s.files.find? s.cwd p = none) : load s p ≠ .ok patient := by
  rw [load_of_nowhere unset nowhere]
  intro h
  exact absurd (congrArg (fun c : Settings => c.api.timeout) (Except.ok.inj h)) (by decide)

end Settings

end FirmwareCatalog
