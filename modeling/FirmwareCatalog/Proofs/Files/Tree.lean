/-
**What a written file leaves as it was.**

A path leads through directories only.  A file is never written where a directory is, and
directories are only made where nothing is, so no path that led somewhere before leads elsewhere
afterwards, and no other file is touched.  The file that was written is found again by the path it
was written at, and so it is by any path that leads to the same place from the working directory,
unless what is there keeps nothing or may not be read.

Main definitions:

* `Path.IsUsable`, `Path.steps` — what a path has to be to be followed, and the steps it takes;
* `FileTree.KeepsWays` — trees in which paths lead where they led;
* `FileTree.Grows` — a tree with more directories, and the same files;
* `FileTree.GrowsAlong`, `FileTree.OnWay` — the new directories are named by certain paths, such as
  those on the way to a directory;
* `FileTree.GivesBack` — places that keep what is written to them;
* `FileTree.InPlace`, `FileTree.IsSought` — where a path is looked for first.

Main results:

* `FileTree.locate_eq_ok_iff` — where a path leads;
* `FileTree.follow_append`, `Path.steps_join` — a path behind another one;
* `FileTree.makeDirectory_eq_ok_iff`, `FileTree.write_eq_ok_iff`, `FileTree.write_eq_error_iff` — what
  making a directory and writing do;
* `FileTree.makeAll_growsAlong` — **directories are made on the way, in addition to what is there**;
* `FileTree.find?_fill` — **the file that was written is found and read**.
-/
import FirmwareCatalog.Files.Search
import Mathlib.Data.List.Basic

set_option relaxedAutoImplicit false
set_option autoImplicit false

namespace FirmwareCatalog

/-! ### Steps of paths -/

namespace Path

/-- The names that a path leads through, single dots and pairs of dots included. -/
def steps (p : Path) : List (List UInt8) := (pieces p.bytes).filter fun piece => !piece.isEmpty

/-- A path that can be followed: it has no NUL character, is not empty and not too long. -/
structure IsUsable (p : Path) : Prop where
  plain : 0 ∉ p.bytes
  given : p.bytes ≠ []
  short : p.bytes.length < 4096

theorem pieces_append (s t : List UInt8) : pieces (s ++ slash :: t) = pieces s ++ pieces t := by
  unfold pieces Text.splitAt
  induction s with
  | nil =>
      obtain ⟨piece, rest, h⟩ := List.exists_cons_of_ne_nil (Text.splitWhere_ne_nil (· == slash) t)
      simp [Text.splitWhere, h]
  | cons c s ih =>
      obtain ⟨piece, rest, h⟩ := List.exists_cons_of_ne_nil (Text.splitWhere_ne_nil (· == slash) s)
      simp only [List.cons_append, Text.splitWhere, ih, h]
      split <;> rfl

/-- **A path behind another one takes the steps of both.** -/
theorem steps_join (p : Path) {q : Path} (hq : q.isAbsolute = false) :
    (p.join q).steps = p.steps ++ q.steps := by
  have hnone : (pieces []).filter (fun piece => !piece.isEmpty) = [] := rfl
  unfold join steps
  rw [hq, if_neg Bool.false_ne_true]
  by_cases hempty : p.bytes = []
  · simp [hempty, hnone]
  by_cases hslash : p.endsInSlash = true
  · obtain ⟨s, hs⟩ : ∃ s, p.bytes = s ++ [slash] := by
      have hlast : p.bytes.getLast? = some slash := by simpa [endsInSlash] using hslash
      exact List.getLast?_eq_some_iff.1 hlast
    have hboth : p.bytes ++ q.bytes = s ++ slash :: q.bytes := by simp [hs]
    rw [hslash, Bool.or_true, if_pos rfl, hboth, pieces_append, hs, pieces_append,
      List.filter_append, List.filter_append, hnone, List.append_nil]
  · rw [if_neg (by simp [hempty, hslash]), pieces_append, List.filter_append]

end Path

namespace FileTree

variable {t t' : FileTree} {cwd l m : Location} {p : Path}

/-! ### Where paths lead -/

def origin (cwd : Location) (p : Path) : Location := if p.isAbsolute then [] else cwd

/-- **A path leads somewhere if it can be followed, and its steps do.** -/
theorem locate_eq_ok_iff :
    t.locate cwd p = .ok l ↔ p.IsUsable ∧ t.follow (origin cwd p) p.steps = .ok l := by
  unfold locate
  constructor
  · intro h
    split at h
    · cases h
    rename_i hplain
    split at h
    · cases h
    rename_i hgiven
    split at h
    · cases h
    rename_i hshort
    exact ⟨⟨by simpa using hplain, by simpa using hgiven, Nat.lt_of_not_le hshort⟩, h⟩
  · rintro ⟨⟨hplain, hgiven, hshort⟩, h⟩
    rw [if_neg (by simpa using hplain), if_neg (by simpa using hgiven),
      if_neg (Nat.not_le.2 hshort)]
    exact h

/-- **What one step does**, from a directory that may be left. -/
theorem follow_cons_eq {step : List UInt8} {rest : List (List UInt8)} :
    t.follow l (step :: rest) = .ok m ↔
      t.get? l = some .directory ∧ (t.refusalsAt l).enter = none ∧
        (if step = [Path.dot] then t.follow l rest
          else if step = [Path.dot, Path.dot] then t.follow l.dropLast rest
          else if 255 < step.length then .error .nameTooLong
          else t.follow (l ++ [step]) rest) = .ok m := by
  rw [follow]
  cases hl : t.get? l with
  | none => simp
  | some e =>
      cases e with
      | file bytes => simp
      | special isFile bytes => simp
      | directory =>
          cases hrefused : (t.refusalsAt l).enter with
          | none => simp
          | some failure => simp

/-- **Steps behind other steps are taken from where these lead.** -/
theorem follow_append (t : FileTree) (a b : List (List UInt8)) :
    ∀ l, t.follow l (a ++ b) = (t.follow l a).bind fun m => t.follow m b := by
  induction a with
  | nil =>
      intro l
      rfl
  | cons step a ih =>
      intro l
      rw [List.cons_append, follow, follow]
      cases t.get? l with
      | none => rfl
      | some e =>
          cases e with
          | file bytes => rfl
          | special isFile bytes => rfl
          | directory =>
              dsimp only
              cases (t.refusalsAt l).enter with
              | some failure => rfl
              | none =>
                  dsimp only
                  split
                  · exact ih l
                  split
                  · exact ih l.dropLast
                  split
                  · rfl
                  · exact ih (l ++ [step])

/-- What a path needs to lead in the second tree where it leads in the first one: all directories are
there, and the same is refused. -/
structure KeepsWays (t t' : FileTree) : Prop where
  directory : ∀ l, t.get? l = some .directory → t'.get? l = some .directory
  refusals : t'.refusals = t.refusals

theorem KeepsWays.refusalsAt (h : KeepsWays t t') (l : Location) :
    t'.refusalsAt l = t.refusalsAt l := by
  rw [FileTree.refusalsAt, h.refusals, FileTree.refusalsAt]

theorem KeepsWays.follow (h : KeepsWays t t') (steps : List (List UInt8)) :
    ∀ {l}, t.follow l steps = .ok m → t'.follow l steps = .ok m := by
  induction steps with
  | nil =>
      intro l hm
      exact hm
  | cons step steps ih =>
      intro l hm
      obtain ⟨hdir, henter, hstep⟩ := follow_cons_eq.1 hm
      refine follow_cons_eq.2 ⟨h.directory l hdir, (h.refusalsAt l).symm ▸ henter, ?_⟩
      -- the same step is taken, because it depends on its name alone
      split at hstep
      case isTrue hdot => exact (if_pos hdot).trans (ih hstep)
      case isFalse hdot =>
        rw [if_neg hdot]
        split at hstep
        case isTrue hup => exact (if_pos hup).trans (ih hstep)
        case isFalse hup =>
          rw [if_neg hup]
          split at hstep
          case isTrue hlong => cases hstep
          case isFalse hlong => exact (if_neg hlong).trans (ih hstep)

theorem KeepsWays.locate (h : KeepsWays t t') (hl : t.locate cwd p = .ok l) :
    t'.locate cwd p = .ok l := by
  obtain ⟨husable, hfollow⟩ := locate_eq_ok_iff.1 hl
  exact locate_eq_ok_iff.2 ⟨husable, h.follow _ hfollow⟩

/-! ### More directories -/

/-- A tree with more directories, and the same in everything else. -/
structure Grows (t t' : FileTree) : Prop where
  keeps : ∀ l e, t.get? l = some e → t'.get? l = some e
  others : ∀ l e, e ≠ .directory → t'.get? l = some e → t.get? l = some e
  refusals : t'.refusals = t.refusals

theorem Grows.refl (t : FileTree) : Grows t t := ⟨fun _ _ h => h, fun _ _ _ h => h, rfl⟩

theorem Grows.trans {t'' : FileTree} (h : Grows t t') (h' : Grows t' t'') : Grows t t'' where
  keeps l e hl := h'.keeps l e (h.keeps l e hl)
  others l e he hl := h.others l e he (h'.others l e he hl)
  refusals := h'.refusals.trans h.refusals

theorem Grows.keepsWays (h : Grows t t') : KeepsWays t t' := ⟨fun l => h.keeps l _, h.refusals⟩

theorem Grows.get?_iff (h : Grows t t') {e : FileEntry} (he : e ≠ .directory) :
    t'.get? l = some e ↔ t.get? l = some e := ⟨h.others l e he, h.keeps l e⟩

/-- A tree that has grown by directories, all of them named by certain paths. -/
structure GrowsAlong (cwd : Location) (ways : Path → Prop) (t t' : FileTree) : Prop
    extends Grows t t' where
  named : ∀ l, t.get? l = none → ∀ e, t'.get? l = some e →
    e = .directory ∧ ∃ q, ways q ∧ t'.locate cwd q = .ok l

variable {ways : Path → Prop}

theorem GrowsAlong.refl (cwd : Location) (ways : Path → Prop) (t : FileTree) :
    GrowsAlong cwd ways t t :=
  ⟨Grows.refl t, fun l hl e he => by rw [hl] at he; cases he⟩

theorem GrowsAlong.trans {t'' : FileTree} (h : GrowsAlong cwd ways t t')
    (h' : GrowsAlong cwd ways t' t'') : GrowsAlong cwd ways t t'' := by
  refine ⟨h.toGrows.trans h'.toGrows, fun l hl e he => ?_⟩
  cases hget : t'.get? l with
  | none => exact h'.named l hget e he
  | some e' =>
      obtain ⟨rfl, q, hq, hlocate⟩ := h.named l hl e' hget
      have hkept := h'.keeps l _ hget
      rw [he] at hkept
      exact ⟨Option.some.inj hkept, q, hq, h'.keepsWays.locate hlocate⟩

theorem GrowsAlong.mono {ways' : Path → Prop} (h : GrowsAlong cwd ways t t')
    (hways : ∀ q, ways q → ways' q) : GrowsAlong cwd ways' t t' := by
  refine ⟨h.toGrows, fun l hl e he => ?_⟩
  obtain ⟨hdir, q, hq, hlocate⟩ := h.named l hl e he
  exact ⟨hdir, q, hways q hq, hlocate⟩

/-- **What making a directory does.**  It is put at the place that the path leads to, where nothing
is. -/
theorem makeDirectory_eq_ok_iff :
    t.makeDirectory cwd p = .ok t' ↔
      ∃ l, t.locate cwd p = .ok l ∧ t.get? l = none ∧ (t.refusalsAt l).change = none ∧
        t' = t.put l .directory := by
  unfold makeDirectory
  cases hl : t.locate cwd p with
  | error e => simp [Except.bind]
  | ok l =>
      cases hget : t.get? l with
      | some e => simp [Except.bind, hget]
      | none =>
          cases hrefused : (t.refusalsAt l).change with
          | none => simp [Except.bind, hget, hrefused, eq_comm]
          | some failure => simp [Except.bind, hget, hrefused]

/-- With a directory where nothing was, a tree has grown. -/
theorem grows_put (hget : t.get? l = none) : Grows t (t.put l .directory) where
  keeps m e hm := by
    have hother : m ≠ l := by
      rintro rfl
      rw [hget] at hm
      cases hm
    rwa [get?_put_of_ne t .directory hother]
  others m e he hm := by
    have hne : l ≠ [] := by
      rintro rfl
      cases hget
    by_cases hsame : m = l
    · subst hsame
      rw [get?_put_self t .directory hne] at hm
      exact absurd (Option.some.inj hm).symm he
    · rwa [get?_put_of_ne t .directory hsame] at hm
  refusals := rfl

/-- The directory that is made is the one that the path names. -/
theorem makeDirectory_growsAlong (h : t.makeDirectory cwd p = .ok t') (hp : ways p) :
    GrowsAlong cwd ways t t' := by
  obtain ⟨l, hl, hget, -, rfl⟩ := makeDirectory_eq_ok_iff.1 h
  have hgrows := grows_put hget
  refine ⟨hgrows, fun m hm e he => ?_⟩
  by_cases hsame : m = l
  · subst hsame
    have hne : m ≠ [] := by
      rintro rfl
      cases hget
    rw [get?_put_self t .directory hne] at he
    cases he
    exact ⟨rfl, p, hp, hgrows.keepsWays.locate hl⟩
  · rw [get?_put_of_ne t .directory hsame, hm] at he
    cases he

theorem settle_growsAlong (t : FileTree) (cwd : Location) (hp : ways p) :
    GrowsAlong cwd ways t (t.settle cwd p (t.makeDirectory cwd p)).2 := by
  cases h : t.makeDirectory cwd p with
  | error e => exact .refl cwd ways t
  | ok t' => exact makeDirectory_growsAlong h hp

/-- A path on the way to the directory with the given components: some of them, from the first one
on. -/
def OnWay (cs : List Path.Component) (q : Path) : Prop :=
  ∃ way ≠ [], way <+: cs ∧ q = .ofComponents way

/-- **What is made lies on the way**, also where not all can be made. -/
theorem makeAll_growsAlong (cwd : Location) (cs : List Path.Component) :
    ∀ t : FileTree, GrowsAlong cwd (OnWay cs.reverse) t (t.makeAll cwd cs).2 := by
  induction cs with
  | nil =>
      intro t
      exact .refl cwd _ t
  | cons c above ih =>
      intro t
      have hwhole : OnWay (c :: above).reverse (.ofComponents (c :: above).reverse) :=
        ⟨_, by simp, List.prefix_rfl, rfl⟩
      have hsettle := settle_growsAlong t cwd hwhole
      rw [makeAll]
      split
      · have habove : GrowsAlong cwd (OnWay (c :: above).reverse) t (t.makeAll cwd above).2 := by
          refine (ih t).mono fun q hq => ?_
          obtain ⟨way, hne, hway, rfl⟩ := hq
          rw [List.reverse_cons]
          exact ⟨way, hne, hway.trans (List.prefix_append _ _), rfl⟩
        cases hall : t.makeAll cwd above with
        | mk result t' =>
            rw [hall] at habove
            cases result with
            | error e => exact habove
            | ok _ => exact habove.trans (settle_growsAlong t' cwd hwhole)
      · exact hsettle

/-! ### Writing -/

/-- **Where a path can be written**: at the place that it leads to, unless there is a directory or
should be one. -/
theorem target_eq_ok_iff :
    t.target cwd p = .ok l ↔
      t.locate cwd p = .ok l ∧ p.endsInSlash = false ∧ t.get? l ≠ some .directory ∧
        (t.refusalsAt l).change = none := by
  unfold target
  cases hl : t.locate cwd p with
  | error e => simp [Except.bind]
  | ok m =>
      by_cases hslash : p.endsInSlash = true
      · simp [Except.bind, hslash]
      by_cases hdir : t.get? m = some .directory
      · simp only [Except.bind, hdir, beq_self_eq_true, Bool.or_true, if_true, Except.ok.injEq]
        refine iff_of_false nofun ?_
        rintro ⟨rfl, -, hnot, -⟩
        exact hnot hdir
      · have hplain : (p.endsInSlash || t.get? m == some .directory) = false := by
          simp [hslash, hdir]
        have hslash' : p.endsInSlash = false := Bool.eq_false_iff.2 hslash
        simp only [Except.bind, hplain, Bool.false_eq_true, if_false, Except.ok.injEq]
        constructor
        · intro h
          cases hrefused : (t.refusalsAt m).change with
          | some failure =>
              rw [hrefused] at h
              cases h
          | none =>
              rw [hrefused] at h
              cases h
              exact ⟨rfl, hslash', hdir, hrefused⟩
        · rintro ⟨rfl, -, -, hrefused⟩
          rw [hrefused]

variable {bytes : List UInt8} {failure : FileFailure}

theorem breaksOff?_eq_some_iff {n : Nat} :
    t.breaksOff? l bytes = some (n, failure) ↔
      (t.refusalsAt l).limit = some (n, failure) ∧ n < bytes.length := by
  rw [breaksOff?, Option.filter_eq_some_iff, decide_eq_true_iff]

theorem breaksOff?_of_unlimited (h : (t.refusalsAt l).limit = none) (bytes : List UInt8) :
    t.breaksOff? l bytes = none := by
  rw [breaksOff?, h]
  rfl

/-- **What writing does.** -/
theorem write_eq_ok_iff :
    t.write cwd p bytes = (.ok (), t') ↔
      ∃ l, t.target cwd p = .ok l ∧ t.breaksOff? l bytes = none ∧ t' = t.fill l bytes := by
  unfold write
  cases hl : t.target cwd p with
  | error e => simp
  | ok l => cases hbreak : t.breaksOff? l bytes <;> simp [hbreak, eq_comm]

/-- **What a failure to write does.**  If it comes before the file is opened, nothing; and after that,
the file holds the bytes up to where they were cut off. -/
theorem write_eq_error_iff :
    t.write cwd p bytes = (.error failure, t') ↔
      t.target cwd p = .error failure ∧ t' = t ∨
        ∃ l n, t.target cwd p = .ok l ∧ t.breaksOff? l bytes = some (n, failure) ∧
          t' = t.fill l (bytes.take n) := by
  unfold write
  cases hl : t.target cwd p with
  | error e => simp [eq_comm]
  | ok l =>
      cases hbreak : t.breaksOff? l bytes with
      | none => simp [hbreak]
      | some limit =>
          obtain ⟨n, e⟩ := limit
          simp only [hbreak]
          constructor
          · intro h
            cases h
            exact Or.inr ⟨l, n, rfl, hbreak, rfl⟩
          · rintro (⟨h, -⟩ | ⟨m, k, hm, hk, rfl⟩)
            · cases h
            · cases hm
              cases hbreak.symm.trans hk
              rfl

@[simp] theorem refusals_fill (t : FileTree) (l : Location) (bytes : List UInt8) :
    (t.fill l bytes).refusals = t.refusals := by
  unfold fill
  split <;> rfl

theorem get?_fill_of_ne (t : FileTree) (bytes : List UInt8) (h : m ≠ l) :
    (t.fill l bytes).get? m = t.get? m := by
  unfold fill
  split
  · rfl
  · exact get?_put_of_ne t _ h

section Written

variable (hdir : t.get? l ≠ some .directory)

include hdir

theorem ne_nil_of_not_directory : l ≠ [] := by
  rintro rfl
  exact hdir rfl

theorem get?_fill_self (bytes : List UInt8) :
    (t.fill l bytes).get? l = some (.file bytes) ∨
      ∃ isFile own, t.get? l = some (.special isFile own) ∧ t.fill l bytes = t := by
  unfold fill
  split
  · rename_i isFile own hspecial
    exact Or.inr ⟨isFile, own, hspecial, rfl⟩
  · exact Or.inl (get?_put_self t _ (ne_nil_of_not_directory hdir))

theorem keepsWays_fill (bytes : List UInt8) : KeepsWays t (t.fill l bytes) where
  directory m h := by
    have hother : m ≠ l := by
      rintro rfl
      exact hdir h
    rwa [get?_fill_of_ne t bytes hother]
  refusals := refusals_fill t l bytes

end Written

/-! ### Finding what was written -/

/-- A place that gives back what is written to it: nothing or a file is there, which may be read. -/
structure GivesBack (t : FileTree) (l : Location) : Prop where
  ordinary : ∀ isFile bytes, t.get? l ≠ some (.special isFile bytes)
  read : (t.refusalsAt l).read = none

theorem Grows.givesBack (h : Grows t t') (hl : t.GivesBack l) : t'.GivesBack l where
  ordinary isFile bytes hspecial := hl.ordinary isFile bytes (h.others l _ nofun hspecial)
  read := (h.keepsWays.refusalsAt l).symm ▸ hl.read

theorem isFile_read (hl : t.locate cwd p = .ok l) (hslash : p.endsInSlash = false)
    (hget : t.get? l = some (.file bytes)) (hread : (t.refusalsAt l).read = none) :
    t.isFile cwd p = true ∧ t.read cwd p = .ok bytes := by
  have hentry : t.entryAt l p = .ok (.file bytes) := by simp [entryAt, hget, hslash]
  constructor
  · rw [isFile, lookup, hl, Except.bind, hentry]
    rfl
  · rw [FileTree.read, hl, Except.bind, hentry, Except.bind, hread]
    rfl

theorem locate_fill (htarget : t.target cwd p = .ok l) (bytes : List UInt8) :
    (t.fill l bytes).locate cwd p = .ok l := by
  obtain ⟨hl, -, hdir, -⟩ := target_eq_ok_iff.1 htarget
  exact (keepsWays_fill hdir bytes).locate hl

theorem isFile_read_fill (htarget : t.target cwd p = .ok l) (hback : t.GivesBack l)
    {q : Path} (hq : t.locate cwd q = .ok l) (hslash : q.endsInSlash = false) :
    (t.fill l bytes).isFile cwd q = true ∧ (t.fill l bytes).read cwd q = .ok bytes := by
  obtain ⟨-, -, hdir, -⟩ := target_eq_ok_iff.1 htarget
  have hways := keepsWays_fill hdir bytes
  refine isFile_read (hways.locate hq) hslash ?_ ((hways.refusalsAt l).symm ▸ hback.read)
  refine (get?_fill_self hdir bytes).resolve_right ?_
  rintro ⟨isFile, own, hspecial, -⟩
  exact hback.ordinary isFile own hspecial

/-- A working directory that is there, where its path says. -/
structure InPlace (t : FileTree) (cwd : Location) : Prop where
  directory : t.get? cwd = some .directory
  located : t.locate cwd cwd.path = .ok cwd

/-- A path that is looked for where it is written: an absolute one, or one that is not too long
behind the path of the working directory. -/
def IsSought (t : FileTree) (cwd : Location) (p : Path) : Prop :=
  p.isAbsolute = true ∨ t.InPlace cwd ∧ (cwd.path.join p).bytes.length < 4096

theorem Grows.isSought (h : Grows t t') (hsought : t.IsSought cwd p) : t'.IsSought cwd p := by
  rcases hsought with habs | ⟨⟨hthere, hlocated⟩, hshort⟩
  · exact Or.inl habs
  · exact Or.inr ⟨⟨h.keeps cwd _ hthere, h.keepsWays.locate hlocated⟩, hshort⟩

/-- A path behind the one of the working directory leads where it leads from there. -/
theorem locate_join (hplace : t.InPlace cwd) (hshort : (cwd.path.join p).bytes.length < 4096)
    (hrel : p.isAbsolute = false) (hl : t.locate cwd p = .ok l) :
    t.locate cwd (cwd.path.join p) = .ok l ∧ (cwd.path.join p).endsInSlash = p.endsInSlash := by
  obtain ⟨⟨hplain, hgiven, -⟩, hfollow⟩ := locate_eq_ok_iff.1 hl
  obtain ⟨⟨hcwdPlain, -, -⟩, hcwdFollow⟩ := locate_eq_ok_iff.1 hplace.located
  have hcwd : cwd.path.bytes = Path.slash :: [Path.slash].intercalate cwd := rfl
  obtain ⟨between, hbetween, hjoin⟩ : ∃ between, (between = [] ∨ between = [Path.slash]) ∧
      (cwd.path.join p).bytes = cwd.path.bytes ++ (between ++ p.bytes) := by
    unfold Path.join
    rw [hrel, if_neg Bool.false_ne_true]
    split
    · exact ⟨[], Or.inl rfl, by simp⟩
    · exact ⟨[Path.slash], Or.inr rfl, by simp⟩
  refine ⟨locate_eq_ok_iff.2 ⟨⟨?_, ?_, hshort⟩, ?_⟩, ?_⟩
  · rw [hjoin]
    have hslash : (0 : UInt8) ≠ Path.slash := by decide
    rcases hbetween with rfl | rfl <;> simp [hcwdPlain, hplain, hslash]
  · simp [hjoin, hgiven]
  · have habs : (cwd.path.join p).isAbsolute = true := by simp [Path.isAbsolute, hjoin, hcwd]
    have hcwdAbs : cwd.path.isAbsolute = true := by simp [Path.isAbsolute, hcwd]
    rw [origin, if_pos habs, Path.steps_join _ hrel, follow_append]
    rw [origin, if_pos hcwdAbs] at hcwdFollow
    rw [origin, hrel, if_neg Bool.false_ne_true] at hfollow
    rw [hcwdFollow]
    exact hfollow
  · rw [Path.endsInSlash, hjoin, List.getLast?_append_of_ne_nil _ (by simp [hgiven]),
      List.getLast?_append_of_ne_nil _ hgiven, Path.endsInSlash]

theorem find?_read (habs : p.isAbsolute = true) (hl : t.locate cwd p = .ok l)
    (hslash : p.endsInSlash = false) (hget : t.get? l = some (.file bytes))
    (hread : (t.refusalsAt l).read = none) :
    t.find? cwd p = some p ∧ t.read cwd p = .ok bytes := by
  obtain ⟨hfile, hread⟩ := isFile_read hl hslash hget hread
  exact ⟨by rw [find?, if_pos habs, if_pos hfile], hread⟩

/-- **The file that was written is found and read**, if it is looked for where it was written, and the
place gives back what is written to it. -/
theorem find?_fill (htarget : t.target cwd p = .ok l) (hback : t.GivesBack l)
    (hsought : t.IsSought cwd p) :
    ∃ found, (t.fill l bytes).find? cwd p = some found ∧
      (t.fill l bytes).read cwd found = .ok bytes := by
  obtain ⟨hl, hslash, -, -⟩ := target_eq_ok_iff.1 htarget
  by_cases habs : p.isAbsolute = true
  · obtain ⟨hfile, hread⟩ := isFile_read_fill htarget hback hl hslash
    exact ⟨p, by rw [find?, if_pos habs, if_pos hfile], hread⟩
  · have hrel : p.isAbsolute = false := by simpa using habs
    obtain ⟨hplace, hshort⟩ := hsought.resolve_left habs
    obtain ⟨hjoin, hjoinSlash⟩ := locate_join hplace hshort hrel hl
    obtain ⟨hfile, hread⟩ := isFile_read_fill htarget hback hjoin (hjoinSlash.trans hslash)
    refine ⟨cwd.path.join p, ?_, hread⟩
    -- the working directory is the first place that is looked at
    have hfirst : Location.upwards cwd =
        cwd :: (List.range cwd.length).map fun n => cwd.take (cwd.length - (n + 1)) := by
      simp [Location.upwards, List.range_succ_eq_map]
    rw [find?, if_neg habs, hfirst, List.map_cons, List.find?_cons_of_pos hfile]

theorem find?_of_not_file (habs : p.isAbsolute = true) (h : t.isFile cwd p = false) :
    t.find? cwd p = none := by
  rw [find?, if_pos habs, h]
  rfl

/-- A path that can be followed itself, but not behind another one, is not found from anywhere. -/
theorem find?_of_long (hrel : p.isAbsolute = false) (hlong : 4095 ≤ p.bytes.length) :
    t.find? cwd p = none := by
  rw [find?, hrel, if_neg Bool.false_ne_true, List.find?_eq_none]
  intro q hq
  obtain ⟨l, -, rfl⟩ := List.mem_map.1 hq
  have hbefore : 0 < l.path.bytes.length := Nat.succ_pos _
  have hjoin : 4096 ≤ (l.path.join p).bytes.length := by
    unfold Path.join
    rw [hrel, if_neg Bool.false_ne_true]
    split <;> simp only [List.length_append, List.length_cons] <;> omega
  have hnowhere (m : Location) : t.locate cwd (l.path.join p) ≠ .ok m := by
    intro hm
    exact absurd (locate_eq_ok_iff.1 hm).1.short (Nat.not_lt.2 hjoin)
  cases hlocate : t.locate cwd (l.path.join p) with
  | ok m => exact absurd hlocate (hnowhere m)
  | error e => simp [isFile, lookup, hlocate, Except.bind]

end FileTree

end FirmwareCatalog
