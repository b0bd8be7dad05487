/-
**What is left of an attempt to save.**

Settings are saved in three steps, and each of them can fail: directories are made, the settings are
written as a text, and the text is written to the file.  The first step comes before the others and
is not taken back, so an attempt that fails later, or in the middle of the first step, may leave
directories behind, on the way to the file.  If the file or its directory was there before, none are
made.

That is all that is left of an attempt that fails before bytes are written.  To write them, the file
is made or emptied first.  If the system refuses the bytes from some point on, the file holds those
before that point, and what it held before is lost.

Main definitions:

* `Settings.MadeRoom` — surroundings with directories on the way to a file, and no other change;
* `Settings.Holds` — surroundings in which a place has been written.

Main results:

* `Settings.save_error` — **what a failed attempt leaves**;
* `Settings.save_leaves` — directories that are left where the settings cannot be written, and a file
  that is emptied where there is no room.
-/
import FirmwareCatalog.Proofs.Files.Parent
import FirmwareCatalog.Proofs.Settings.Saved

set_option relaxedAutoImplicit false
set_option autoImplicit false

namespace FirmwareCatalog

namespace Settings

open FileTree (GrowsAlong OnWay)

variable {c : Settings} {s s' : Surroundings} {p : Path} {e : SettingsError}
variable {files left : FileTree} {cwd : Location}

/-! ### Failures -/

/-- Settings are not written if they have no text, or if the text is refused. -/
theorem write_eq_error_iff :
    c.write files cwd p = (.error e, left) ↔
      (∃ reason, c.toToml = .error reason ∧ e = .unwritable reason ∧ left = files) ∨
        ∃ text failure, c.toToml = .ok text ∧
          files.write cwd p (bytesOf text) = (.error failure, left) ∧ e = .file failure := by
  unfold write
  cases htext : c.toToml with
  | error reason => simp [eq_comm]
  | ok text =>
      cases hwritten : files.write cwd p (bytesOf text) with
      | mk result left' => cases result <;> simp [hwritten, eq_comm, and_comm]

/-- **A failed attempt** stops when there is room at most, or when bytes are refused. -/
theorem save_error_cases (h : c.save s p = (.error e, s')) :
    s' = { s with files := (makeRoom s p).2 } ∨
      ∃ text l n failure, c.toToml = .ok text ∧ e = .file failure ∧
        (makeRoom s p).2.target s.cwd p = .ok l ∧
        (makeRoom s p).2.breaksOff? l (bytesOf text) = some (n, failure) ∧
        s' = { s with files := (makeRoom s p).2.fill l ((bytesOf text).take n) } := by
  unfold save at h
  cases hroom : makeRoom s p with
  | mk result files =>
      rw [hroom] at h
      cases result with
      | error e =>
          cases h
          exact Or.inl rfl
      | ok u =>
          dsimp only at h
          cases hwritten : c.write files s.cwd p with
          | mk result left =>
              rw [hwritten] at h
              cases h
              obtain ⟨reason, -, -, rfl⟩ | ⟨text, failure, htext, hfile, rfl⟩ :=
                write_eq_error_iff.1 hwritten
              · exact Or.inl rfl
              · obtain ⟨-, rfl⟩ | ⟨l, n, hl, hbreak, rfl⟩ := FileTree.write_eq_error_iff.1 hfile
                · exact Or.inl rfl
                · exact Or.inr ⟨text, l, n, failure, htext, rfl, hl, hbreak, rfl⟩

/-! ### Room -/

/-- The directories on the way to a file. -/
def IsAbove (p q : Path) : Prop := ∃ d, p.parent? = some d ∧ OnWay d.components q

/-- **Room is made on the way**, and by directories alone. -/
theorem makeRoom_growsAlong (s : Surroundings) (p : Path) :
    GrowsAlong s.cwd (IsAbove p) s.files (makeRoom s p).2 := by
  unfold makeRoom
  cases hd : p.parent? with
  | none => exact .refl s.cwd _ s.files
  | some d =>
      refine (FileTree.makeAll_growsAlong s.cwd d.components.reverse s.files).mono fun q hq => ?_
      rw [List.reverse_reverse] at hq
      exact ⟨d, hd, hq⟩

/-- There is something at the path of a file, or at the path of its directory if that has one. -/
def IsThere (s : Surroundings) (p : Path) : Prop :=
  (∃ entry, s.files.lookup s.cwd p = .ok entry) ∨
    ∀ d, p.parent? = some d → d.bytes ≠ [] → ∃ entry, s.files.lookup s.cwd d = .ok entry

/-- Then no room is made. -/
theorem makeRoom_of_isThere (h : IsThere s p) : (makeRoom s p).2 = s.files := by
  unfold makeRoom
  cases hd : p.parent? with
  | none => rfl
  | some d =>
      obtain ⟨last, -, -, hwritten⟩ := Path.parent?_eq_some hd
      by_cases hbytes : d.bytes = []
      · have hnone : d.components = [] := by
          unfold Path.components
          rw [hbytes]
          rfl
        dsimp only
        rw [FileTree.makeDirectories, hnone]
        rfl
      · obtain ⟨entry, hentry⟩ : ∃ entry, s.files.lookup s.cwd d = .ok entry := by
          rcases h with ⟨entry, hentry⟩ | hdir
          · exact ⟨.directory, FileTree.lookup_parent hentry hd hbytes⟩
          · exact hdir d hd hbytes
        rw [hwritten] at hentry
        exact FileTree.makeAll_of_lookup hentry

/-- Surroundings in which nothing is new but directories on the way to a file, and nothing at all if
the file or its directory was there. -/
structure MadeRoom (s s' : Surroundings) (p : Path) : Prop where
  environment : s'.environment = s.environment
  cwd : s'.cwd = s.cwd
  refusals : s'.files.refusals = s.files.refusals
  others : ∀ l entry, entry ≠ .directory →
    (s'.files.get? l = some entry ↔ s.files.get? l = some entry)
  directories : ∀ l, s.files.get? l = some .directory → s'.files.get? l = some .directory
  new : ∀ l, s.files.get? l = none → ∀ entry, s'.files.get? l = some entry →
    entry = .directory ∧ ∃ d, p.parent? = some d ∧ ∃ way ≠ [], way <+: d.components ∧
      s'.files.locate s'.cwd (.ofComponents way) = .ok l
  same : IsThere s p → s' = s

theorem madeRoom (s : Surroundings) (p : Path) :
    MadeRoom s { s with files := (makeRoom s p).2 } p := by
  have hgrows := makeRoom_growsAlong s p
  refine ⟨rfl, rfl, hgrows.refusals, fun l entry => hgrows.get?_iff, fun l => hgrows.keeps l _,
    fun l hl entry hentry => ?_, fun hthere => ?_⟩
  · obtain ⟨hdir, q, ⟨d, hd, way, hne, hway, rfl⟩, hlocate⟩ := hgrows.named l hl entry hentry
    exact ⟨hdir, d, hd, way, hne, hway, hlocate⟩
  · rw [makeRoom_of_isThere hthere]

/-! ### What is left -/

/-- Surroundings in which a place holds given bytes, and nothing else has changed.  A device stays
what it is. -/
structure Holds (room s' : Surroundings) (l : Location) (bytes : List UInt8) : Prop where
  environment : s'.environment = room.environment
  cwd : s'.cwd = room.cwd
  refusals : s'.files.refusals = room.files.refusals
  others : ∀ m ≠ l, s'.files.get? m = room.files.get? m
  here : s'.files.get? l = some (.file bytes) ∨
    s' = room ∧ ∃ isFile own, room.files.get? l = some (.special isFile own)

theorem holds_fill (room : Surroundings) {l : Location} (hdir : room.files.get? l ≠ some .directory)
    (bytes : List UInt8) : Holds room { room with files := room.files.fill l bytes } l bytes := by
  refine ⟨rfl, rfl, FileTree.refusals_fill room.files l bytes,
    fun m => FileTree.get?_fill_of_ne room.files bytes, ?_⟩
  refine (FileTree.get?_fill_self hdir bytes).imp_right ?_
  rintro ⟨isFile, own, hspecial, hsame⟩
  exact ⟨by rw [hsame], isFile, own, hspecial⟩

/-- **What a failed attempt to save leaves.**  Nothing is new but directories on the way to the file;
and if there was something at the path before, or at the path of its directory, nothing is new.

The exception is an attempt in which the system takes only the first bytes of the text.  Then the
file holds these, whatever it held before. -/
theorem save_error (failed : c.save s p = (.error e, s')) :
    MadeRoom s s' p ∨
      ∃ room text l n failure, MadeRoom s room p ∧ c.toToml = .ok text ∧
        room.files.target room.cwd p = .ok l ∧
        (s.files.refusalsAt l).limit = some (n, failure) ∧ n < (bytesOf text).length ∧
        e = .file failure ∧ Holds room s' l ((bytesOf text).take n) := by
  have hroom := madeRoom s p
  obtain rfl | ⟨text, l, n, failure, htext, rfl, hl, hbreak, rfl⟩ := save_error_cases failed
  · exact Or.inl hroom
  · obtain ⟨-, -, hdir, -⟩ := FileTree.target_eq_ok_iff.1 hl
    obtain ⟨hlimit, hshort⟩ := FileTree.breaksOff?_eq_some_iff.1 hbreak
    rw [(makeRoom_growsAlong s p).keepsWays.refusalsAt] at hlimit
    exact Or.inr ⟨_, text, l, n, failure, hroom, htext, hl, hlimit, hshort, rfl,
      holds_fill { s with files := (makeRoom s p).2 } hdir _⟩

def endless : Settings := ⟨{ timeout := 0x8000000000000000 }⟩

def nestedPath : Path := .ofText "d/c"

theorem save_nested : endless.save bare nestedPath = (.error (.unwritable .number),
    { bare with files := bare.files.put [[0x77], [0x64]] .directory }) := rfl

/-- What is left is a directory on the way to the file. -/
theorem save_error_nested :
    ∃ s', endless.save bare nestedPath = (.error (.unwritable .number), s') ∧
      MadeRoom bare s' nestedPath := by
  refine ⟨_, save_nested, (save_error save_nested).resolve_right ?_⟩
  rintro ⟨_, _, _, _, _, -, -, -, -, -, herror, -⟩
  cases herror

/-- Surroundings with a file, and with no room for more. -/
def full : Surroundings where
  files := ⟨[([[0x77]], .directory), ([[0x77], [0x63]], .file [0x61])],
    [([[0x77], [0x63]], { limit := some (0, .other "No space left on device (os error 28)") })]⟩
  cwd := [[0x77]]
  environment := .empty

/-- **A failed attempt can leave something.**  A directory is left where the settings cannot be
written; and where there is no room for them, the file is left without what it held. -/
theorem save_leaves :
    (∃ e s', endless.save bare nestedPath = (.error e, s') ∧
      bare.files.get? [[0x77], [0x64]] = none ∧
      s'.files.get? [[0x77], [0x64]] = some .directory) ∧
    ∃ e s', patient.save full plainPath = (.error e, s') ∧
      full.files.get? [[0x77], [0x63]] = some (.file [0x61]) ∧
      s'.files.get? [[0x77], [0x63]] = some (.file []) :=
  ⟨⟨_, _, save_nested, rfl, rfl⟩, _, _, rfl, rfl, rfl⟩

end Settings

end FirmwareCatalog
