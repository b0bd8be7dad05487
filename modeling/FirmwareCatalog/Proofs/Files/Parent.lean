/-
**The directory that a path is in.**

Where a path leads somewhere, so does the one without the last component, to a directory.

Directories are made from the top down, along the beginnings of a path, and none is made where the
path already names something.

Main definition: `FileTree.IsOpen` — directories that may be left for what is in them.

Main results:

* `FileTree.lookup_parent` — **what a path leads to is in a directory**;
* `FileTree.makeAll_of_lookup` — where there is something, nothing is made.
-/
import FirmwareCatalog.Proofs.Files.Components

set_option relaxedAutoImplicit false
set_option autoImplicit false

namespace FirmwareCatalog

namespace FileTree

variable {t t' : FileTree} {cwd l m : Location} {p d : Path}

/-- A directory that may be left for what is in it. -/
structure IsOpen (t : FileTree) (l : Location) : Prop where
  directory : t.get? l = some .directory
  enter : (t.refusalsAt l).enter = none

theorem isOpen_of_step {step : List UInt8} {ss : List (List UInt8)}
    (h : t.follow l (step :: ss) = .ok m) : t.IsOpen l := by
  obtain ⟨hdir, henter, -⟩ := follow_cons_eq.1 h
  exact ⟨hdir, henter⟩

theorem follow_dot {ss : List (List UInt8)} :
    t.follow l ([Path.dot] :: ss) = .ok m ↔ t.IsOpen l ∧ t.follow l ss = .ok m := by
  rw [follow_cons_eq, if_pos rfl]
  constructor
  · rintro ⟨hdir, henter, h⟩
    exact ⟨⟨hdir, henter⟩, h⟩
  · rintro ⟨⟨hdir, henter⟩, h⟩
    exact ⟨hdir, henter, h⟩

/-- A first step, and where the others lead from there. -/
theorem follow_cons_eq_ok {step : List UInt8} {ss : List (List UInt8)} :
    t.follow l (step :: ss) = .ok m ↔ ∃ n, t.follow l [step] = .ok n ∧ t.follow n ss = .ok m := by
  have happend := t.follow_append [step] ss l
  rw [List.singleton_append] at happend
  rw [happend]
  cases t.follow l [step] with
  | error e =>
      constructor
      · intro h
        cases h
      · rintro ⟨n, hn, -⟩
        cases hn
  | ok n =>
      constructor
      · intro h
        exact ⟨n, rfl, h⟩
      · rintro ⟨n', hn, h⟩
        cases hn
        exact h

/-! ### What a path leads to is in a directory -/

theorem filter_cons_of_component? {piece : List UInt8} {c : Path.Component}
    (h : Path.component? piece = some c) (ps : List (List UInt8)) :
    (piece :: ps).filter (fun piece => !piece.isEmpty) =
      c.bytes :: ps.filter fun piece => !piece.isEmpty := by
  have hne : piece ≠ [] := by
    rintro rfl
    cases h
  rw [Path.bytes_of_component? h, List.filter_cons_of_pos (by simpa using hne)]

/-- Steps lead where those of them lead that lead elsewhere. -/
theorem follow_moves (ps : List (List UInt8)) :
    ∀ {l}, t.follow l (ps.filter fun piece => !piece.isEmpty) = .ok m →
      t.follow l ((ps.filterMap Path.component?).map Path.Component.bytes) = .ok m := by
  induction ps with
  | nil =>
      intro l h
      exact h
  | cons piece ps ih =>
      intro l h
      cases hread : Path.component? piece with
      | none =>
          rw [List.filterMap_cons_none hread]
          rcases Path.component?_eq_none_iff.1 hread with rfl | rfl
          · exact ih h
          · exact ih (follow_dot.1 h).2
      | some c =>
          rw [filter_cons_of_component? hread] at h
          obtain ⟨n, hstep, hrest⟩ := follow_cons_eq_ok.1 h
          rw [List.filterMap_cons_some hread]
          exact follow_cons_eq_ok.2 ⟨n, hstep, ih hrest⟩

/-- If these lead to a directory that may be left, so do all steps. -/
theorem follow_of_moves (hm : t.IsOpen m) (ps : List (List UInt8)) :
    ∀ {l}, t.follow l ((ps.filterMap Path.component?).map Path.Component.bytes) = .ok m →
      t.follow l (ps.filter fun piece => !piece.isEmpty) = .ok m := by
  induction ps with
  | nil =>
      intro l h
      exact h
  | cons piece ps ih =>
      intro l h
      cases hread : Path.component? piece with
      | none =>
          rw [List.filterMap_cons_none hread] at h
          rcases Path.component?_eq_none_iff.1 hread with rfl | rfl
          · exact ih h
          · -- a dot is taken from a directory, whatever comes after it
            have hl : t.IsOpen l := by
              cases hmoves : (ps.filterMap Path.component?).map Path.Component.bytes with
              | nil =>
                  rw [hmoves] at h
                  cases h
                  exact hm
              | cons step ss =>
                  rw [hmoves] at h
                  exact isOpen_of_step h
            exact follow_dot.2 ⟨hl, ih h⟩
      | some c =>
          rw [List.filterMap_cons_some hread] at h
          obtain ⟨n, hstep, hrest⟩ := follow_cons_eq_ok.1 h
          rw [filter_cons_of_component? hread]
          exact follow_cons_eq_ok.2 ⟨n, hstep, ih hrest⟩

/-- **What a path leads to is in a directory**, to which the path without its last component leads.
-/
theorem lookup_parent {e : FileEntry} (h : t.lookup cwd p = .ok e) (hd : p.parent? = some d)
    (hne : d.bytes ≠ []) : t.lookup cwd d = .ok .directory := by
  obtain ⟨l, hl⟩ : ∃ l, t.locate cwd p = .ok l := by
    cases hl : t.locate cwd p with
    | error e => simp [lookup, hl, Except.bind] at h
    | ok l => exact ⟨l, rfl⟩
  obtain ⟨husable, hfollow⟩ := locate_eq_ok_iff.1 hl
  obtain ⟨last, hsplit, hroot, hwritten⟩ := Path.parent?_eq_some hd
  obtain ⟨c, cs, hcs⟩ : ∃ c cs, d.components = c :: cs := by
    refine List.exists_cons_of_ne_nil fun hnil => hne ?_
    rw [hwritten, hnil]
    rfl
  have horigin : origin cwd d = origin cwd p := by
    have habs : d.isAbsolute = p.isAbsolute := by
      rw [Bool.eq_iff_iff, Path.isAbsolute_iff, Path.isAbsolute_iff, hsplit, hcs]
      rfl
    rw [origin, origin, habs]
  -- the last component is a step of its own behind those of the directory
  have hlast : last ≠ .current := by
    rintro rfl
    have htidy := Path.isTidy_components p
    rw [hsplit, hcs] at htidy
    have hread := (htidy.2 .current (List.mem_append_right cs List.mem_cons_self)).read
    cases hread
  have hmoves : p.moves = d.moves ++ [last] := by
    rw [Path.moves_eq, Path.moves_eq, hsplit, List.filter_append,
      List.filter_cons_of_pos (by simp [hroot, hlast]), List.filter_nil]
  have hsteps : t.follow (origin cwd p) (p.moves.map Path.Component.bytes) = .ok l :=
    follow_moves _ hfollow
  rw [hmoves, List.map_append, follow_append] at hsteps
  obtain ⟨m, hm, hstep⟩ : ∃ m, t.follow (origin cwd p) (d.moves.map Path.Component.bytes) = .ok m ∧
      t.follow m [last.bytes] = .ok l := by
    cases hm : t.follow (origin cwd p) (d.moves.map Path.Component.bytes) with
    | error e =>
        rw [hm] at hsteps
        cases hsteps
    | ok m =>
        rw [hm] at hsteps
        exact ⟨m, rfl, hsteps⟩
  have hopen := isOpen_of_step hstep
  have hlocate : t.locate cwd d = .ok m :=
    locate_eq_ok_iff.2 ⟨husable.parent hd hne, horigin ▸ follow_of_moves hopen _ hm⟩
  simp [lookup, hlocate, Except.bind, entryAt, hopen.directory]

/-! ### Nothing to be made -/

/-- Where there is something, nothing is made. -/
theorem makeAll_of_lookup {cs : List Path.Component} {e : FileEntry}
    (h : t.lookup cwd (.ofComponents cs) = .ok e) : (t.makeAll cwd cs.reverse).2 = t := by
  cases hcs : cs.reverse with
  | nil => rfl
  | cons c above =>
      have hsame : (c :: above).reverse = cs := by rw [← hcs, List.reverse_reverse]
      have hmade : t.makeDirectory cwd (.ofComponents cs) = .error .exists := by
        unfold makeDirectory
        cases hl : t.locate cwd (.ofComponents cs) with
        | error e => simp [lookup, hl, Except.bind] at h
        | ok l =>
            cases hget : t.get? l with
            | none => simp [lookup, hl, entryAt, hget, Except.bind] at h
            | some e => simp [hget, Except.bind]
      rw [makeAll, hsame, hmade]
      rfl

end FileTree

end FirmwareCatalog
