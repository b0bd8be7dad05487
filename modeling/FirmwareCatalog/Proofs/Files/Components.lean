/-
**The components of a path.**

A path without its last component is written anew from the components that are left, and has just
these components.  Its bytes are what is left of those of the path when some are taken out, so it can be
followed where the path can.

Not all components lead elsewhere.  The top and a dot at the start only say where the way begins.

Main definitions:

* `Path.Component.IsStep`, `Path.IsTidy` — components as they stand in a path;
* `Path.Begins` — how the components of a path begin;
* `Path.moves` — the components that lead elsewhere.

Main results:

* `Path.text?_eq_some_iff` — which paths are texts;
* `Path.components_ofComponents` — **components make a path that has them**;
* `Path.parent?_eq_some`, `Path.IsUsable.parent` — the path of the directory;
* `Path.isAbsolute_iff`, `Path.moves_eq` — how the components of a path begin, and how they go on.
-/
import FirmwareCatalog.Proofs.Files.Tree
import FirmwareCatalog.Proofs.Text.Pieces
import FirmwareCatalog.Proofs.Text.Utf8

set_option relaxedAutoImplicit false
set_option autoImplicit false

namespace FirmwareCatalog

namespace Path

/-! ### Paths that are texts -/

/-- A path is the text that it is made from. -/
theorem text?_eq_some_iff {p : Path} {s : String} : p.text? = some s ↔ p = ofText s := by
  obtain ⟨bytes⟩ := p
  simp only [text?, ofText, Option.map_eq_some_iff, Utf8.decode?_eq_some_iff, Path.mk.injEq]
  constructor
  · rintro ⟨cs, rfl, rfl⟩
    rw [String.toList_ofList]
  · rintro rfl
    exact ⟨s.toList, rfl, String.ofList_toList⟩

@[simp] theorem text?_ofText (s : String) : (ofText s).text? = some s := text?_eq_some_iff.2 rfl

/-! ### Components and their bytes -/

/-- A component that may stand anywhere in a path: it is what its bytes are taken for. -/
structure Component.IsStep (c : Component) : Prop where
  slash : Path.slash ∉ c.bytes
  read : component? c.bytes = some c

/-- A component is written as the piece that it is read from. -/
theorem bytes_of_component? {piece : List UInt8} {c : Component} (h : component? piece = some c) :
    c.bytes = piece := by
  unfold component? at h
  split at h
  · cases h
  split at h
  case isTrue hup =>
    cases h
    exact hup.symm
  case isFalse =>
    cases h
    rfl

theorem component?_eq_none_iff {piece : List UInt8} :
    component? piece = none ↔ piece = [] ∨ piece = [dot] := by
  unfold component?
  split
  case isTrue h => exact ⟨fun _ => h, fun _ => rfl⟩
  case isFalse h =>
    refine ⟨fun hnone => ?_, fun hleft => absurd hleft h⟩
    split at hnone <;> cases hnone

/-- Components of a path: the first one may be the top or a single dot. -/
def IsTidy : List Component → Prop
  | [] => True
  | c :: rest => (c = .root ∨ c = .current ∨ c.IsStep) ∧ ∀ d ∈ rest, d.IsStep

theorem IsTidy.beginning {cs ds : List Component} (hds : IsTidy ds) (h : cs <+: ds) :
    IsTidy cs := by
  cases cs with
  | nil => trivial
  | cons c cs =>
      cases ds with
      | nil => exact absurd h (by simp)
      | cons d ds =>
          obtain ⟨rfl, hrest⟩ := List.cons_prefix_cons.1 h
          exact ⟨hds.1, fun e he => hds.2 e (hrest.subset he)⟩

theorem isStep_of_piece {s piece : List UInt8} (hpiece : piece ∈ pieces s) {c : Component}
    (h : component? piece = some c) : c.IsStep := by
  have htext := bytes_of_component? h
  refine ⟨fun hslash => ?_, htext ▸ h⟩
  rw [htext] at hslash
  exact absurd (Text.cut_of_mem_splitWhere hpiece _ hslash) (by decide)

/-- How the components of a path begin, by its pieces. -/
inductive Begins : List UInt8 → List (List UInt8) → List Component → Prop
  | nothing : Begins [] [] []
  | top {rest : List (List UInt8)} (h : rest ≠ []) :
      Begins [] rest (.root :: rest.filterMap component?)
  | here (rest : List (List UInt8)) : Begins [dot] rest (.current :: rest.filterMap component?)
  | plain {first : List UInt8} (rest : List (List UInt8)) (given : first ≠ []) (other : first ≠ [dot]) :
      Begins first rest ((first :: rest).filterMap component?)

theorem componentsOf_nil {rest : List (List UInt8)} (h : rest ≠ []) :
    componentsOf [] rest = .root :: rest.filterMap component? := by
  rw [componentsOf, if_pos rfl, if_neg h]

theorem componentsOf_dot (rest : List (List UInt8)) :
    componentsOf [dot] rest = .current :: rest.filterMap component? := by
  rw [componentsOf, if_neg (List.cons_ne_nil _ _), if_pos rfl]

theorem begins_componentsOf (first : List UInt8) (rest : List (List UInt8)) :
    Begins first rest (componentsOf first rest) := by
  unfold componentsOf
  split
  case isTrue hempty =>
    subst hempty
    split
    case isTrue hrest =>
      subst hrest
      exact .nothing
    case isFalse hrest => exact .top hrest
  case isFalse hempty =>
    split
    case isTrue hdot =>
      subst hdot
      exact .here rest
    case isFalse hdot => exact .plain rest hempty hdot

theorem exists_begins (p : Path) :
    ∃ first rest, pieces p.bytes = first :: rest ∧ Begins first rest p.components := by
  obtain ⟨first, rest, hpieces⟩ : ∃ first rest, pieces p.bytes = first :: rest :=
    List.exists_cons_of_ne_nil (Text.splitWhere_ne_nil _ _)
  refine ⟨first, rest, hpieces, ?_⟩
  rw [components, hpieces]
  exact begins_componentsOf first rest

/-- **The components of a path are tidy.** -/
theorem isTidy_components (p : Path) : IsTidy p.components := by
  obtain ⟨first, rest, hpieces, hbegins⟩ := exists_begins p
  have hsteps {ps : List (List UInt8)} (hps : ∀ piece ∈ ps, piece ∈ pieces p.bytes) :
      ∀ d ∈ ps.filterMap component?, d.IsStep := by
    intro d hd
    obtain ⟨piece, hpiece, hread⟩ := List.mem_filterMap.1 hd
    exact isStep_of_piece (hps piece hpiece) hread
  have hrest : ∀ piece ∈ rest, piece ∈ pieces p.bytes := by
    intro piece hpiece
    exact hpieces ▸ List.mem_cons_of_mem first hpiece
  generalize p.components = cs at hbegins
  cases hbegins with
  | nothing => trivial
  | top _ => exact ⟨.inl rfl, hsteps hrest⟩
  | here _ => exact ⟨.inr (.inl rfl), hsteps hrest⟩
  | plain _ _ _ =>
      have hall := hsteps fun piece hpiece => hpieces ▸ hpiece
      cases hcs : (first :: rest).filterMap component? with
      | nil => trivial
      | cons d ds =>
          rw [hcs] at hall
          exact ⟨.inr (.inr (hall d List.mem_cons_self)), fun e he => hall e (List.mem_cons_of_mem d he)⟩

/-- The pieces of a path that is written from components. -/
theorem pieces_ofComponents {cs : List Component} (h : IsTidy cs) (hne : cs ≠ [])
    (hroot : cs ≠ [.root]) : pieces (ofComponents cs).bytes = cs.map Component.bytes := by
  have htext : (ofComponents cs).bytes = [slash].intercalate (cs.map Component.bytes) := by
    unfold ofComponents
    split
    · exact absurd rfl hroot
    · rfl
  have hslash : ∀ s ∈ cs.map Component.bytes, slash ∉ s := by
    intro s hs
    obtain ⟨c, hc, rfl⟩ := List.mem_map.1 hs
    cases cs with
    | nil => cases hc
    | cons d ds =>
        rcases List.mem_cons.1 hc with rfl | hc
        · rcases h.1 with rfl | rfl | hstep
          · exact List.not_mem_nil
          · decide
          · exact hstep.slash
        · exact (h.2 c hc).slash
  rw [htext, pieces, Text.splitAt_eq_splitOn,
    List.splitOn_intercalate slash hslash (by simpa using hne)]

/-- **Components make a path that has them.** -/
theorem components_ofComponents {cs : List Component} (h : IsTidy cs) :
    (ofComponents cs).components = cs := by
  have hmap {ds : List Component} (hds : ∀ d ∈ ds, d.IsStep) :
      (ds.map Component.bytes).filterMap component? = ds := by
    rw [List.filterMap_map]
    exact (List.filterMap_congr fun d hd => (hds d hd).read).trans List.filterMap_some
  by_cases hne : cs = []
  · subst hne
    rfl
  by_cases hroot : cs = [.root]
  · subst hroot
    rfl
  have hpieces := pieces_ofComponents h hne hroot
  cases cs with
  | nil => exact absurd rfl hne
  | cons c rest =>
      -- the first component may be the top or a single dot, which are written in ways of their own
      have hrest := hmap h.2
      rw [components, hpieces, List.map_cons]
      dsimp only
      rcases h.1 with rfl | rfl | hstep
      · cases rest with
        | nil => exact absurd rfl hroot
        | cons d ds =>
            have hgiven : (d :: ds).map Component.bytes ≠ [] := by simp
            exact (componentsOf_nil hgiven).trans (by rw [hrest])
      · exact (componentsOf_dot _).trans (by rw [hrest])
      · have hgiven : c.bytes ≠ [] ∧ c.bytes ≠ [dot] := by
          refine ⟨fun hempty => ?_, fun hdot => ?_⟩
          · exact absurd hstep.read (by rw [component?_eq_none_iff.2 (.inl hempty)]; nofun)
          · exact absurd hstep.read (by rw [component?_eq_none_iff.2 (.inr hdot)]; nofun)
        rw [componentsOf, if_neg hgiven.1, if_neg hgiven.2,
          List.filterMap_cons_some hstep.read, hrest]

/-- **The path of the directory that a path is in.** -/
theorem parent?_eq_some {p d : Path} (h : p.parent? = some d) :
    ∃ last, p.components = d.components ++ [last] ∧ last ≠ .root ∧
      d = ofComponents d.components := by
  unfold parent? at h
  obtain ⟨cs, hcs, rfl⟩ := Option.map_eq_some_iff.1 h
  unfold parentComponents? at hcs
  cases hlast : p.components.getLast? with
  | none =>
      rw [hlast] at hcs
      cases hcs
  | some last =>
      rw [hlast] at hcs
      have hsplit := List.dropLast_append_getLast? last hlast
      have hup : last ≠ .root ∧ cs = p.components.dropLast := by
        cases last with
        | root => cases hcs
        | current => exact ⟨nofun, (Option.some.inj hcs).symm⟩
        | above => exact ⟨nofun, (Option.some.inj hcs).symm⟩
        | name s => exact ⟨nofun, (Option.some.inj hcs).symm⟩
      obtain ⟨hne, rfl⟩ := hup
      have hagain := components_ofComponents
        ((isTidy_components p).beginning (List.dropLast_prefix p.components))
      exact ⟨last, by rw [hagain, hsplit], hne, by rw [hagain]⟩

/-! ### What is left out -/

/-- What is left of the pieces between the same signs is left of the whole. -/
theorem sublist_intercalate {a b : List (List UInt8)} (h : a.Sublist b) :
    ([slash].intercalate a).Sublist ([slash].intercalate b) := by
  induction h with
  | slnil => exact List.Sublist.refl _
  | @cons a b piece hab ih =>
      cases b with
      | nil => simp [List.sublist_nil.1 hab]
      | cons c b =>
          rw [List.intercalate_cons_cons]
          exact ih.trans (List.sublist_append_right _ _)
  | @cons_cons a b piece hab ih =>
      cases a with
      | nil =>
          cases b with
          | nil => exact List.Sublist.refl _
          | cons c b =>
              rw [List.intercalate_cons_cons, List.intercalate_singleton, List.append_assoc]
              exact List.sublist_append_left _ _
      | cons x a =>
          cases b with
          | nil => cases hab
          | cons c b =>
              rw [List.intercalate_cons_cons, List.intercalate_cons_cons]
              exact (List.Sublist.refl _).append ih

/-- What the components are written with are some of the pieces. -/
theorem sublist_filterMap_component? (ps : List (List UInt8)) :
    ((ps.filterMap component?).map Component.bytes).Sublist ps := by
  induction ps with
  | nil => exact List.Sublist.refl _
  | cons piece ps ih =>
      cases hread : component? piece with
      | none =>
          rw [List.filterMap_cons_none hread]
          exact ih.cons piece
      | some c =>
          rw [List.filterMap_cons_some hread, List.map_cons, bytes_of_component? hread]
          exact ih.cons_cons piece

theorem sublist_components (p : Path) :
    (p.components.map Component.bytes).Sublist (pieces p.bytes) := by
  obtain ⟨first, rest, hpieces, hbegins⟩ := exists_begins p
  have hrest := sublist_filterMap_component? rest
  rw [hpieces]
  generalize p.components = cs at hbegins
  cases hbegins with
  | nothing => exact List.nil_sublist _
  | top _ => exact hrest.cons_cons []
  | here _ => exact hrest.cons_cons [dot]
  | plain _ _ _ => exact sublist_filterMap_component? (first :: rest)

/-- The path of the directory is left of the path, unless it is the top. -/
theorem sublist_parent {p d : Path} (h : p.parent? = some d) (hroot : d.components ≠ [.root]) :
    d.bytes.Sublist p.bytes := by
  obtain ⟨last, hsplit, -, hd⟩ := parent?_eq_some h
  have hbytes : d.bytes = [slash].intercalate (d.components.map Component.bytes) := by
    have hwritten := congrArg Path.bytes hd
    unfold ofComponents at hwritten
    split at hwritten
    · rename_i hcs
      exact absurd hcs hroot
    · exact hwritten
  have hpieces : (d.components.map Component.bytes).Sublist (pieces p.bytes) := by
    refine List.Sublist.trans ?_ (sublist_components p)
    rw [hsplit, List.map_append]
    exact List.sublist_append_left _ _
  have hall : [slash].intercalate (pieces p.bytes) = p.bytes := by
    rw [pieces, Text.splitAt_eq_splitOn, List.intercalate_splitOn]
  rw [hbytes, ← hall]
  exact sublist_intercalate hpieces

/-- If a path can be followed, so can the one of its directory, if that is named at all. -/
theorem IsUsable.parent {p d : Path} (hp : p.IsUsable) (h : p.parent? = some d)
    (hne : d.bytes ≠ []) : d.IsUsable := by
  by_cases hroot : d.components = [.root]
  · obtain ⟨last, -, -, hd⟩ := parent?_eq_some h
    rw [hroot] at hd
    subst hd
    exact ⟨by decide, hne, by decide⟩
  · have hleft := sublist_parent h hroot
    exact ⟨fun hnul => hp.plain (hleft.subset hnul), hne,
      Nat.lt_of_le_of_lt hleft.length_le hp.short⟩

/-! ### Steps that lead elsewhere -/

/-- The components of a path that lead elsewhere: names and pairs of dots. -/
def moves (p : Path) : List Component := (pieces p.bytes).filterMap component?

/-- They are all components but the top and a dot at the start. -/
theorem moves_eq (p : Path) :
    p.moves = p.components.filter fun c => c != .root && c != .current := by
  obtain ⟨first, rest, hpieces, hbegins⟩ := exists_begins p
  have hkept (ps : List (List UInt8)) :
      (ps.filterMap component?).filter (fun c => c != .root && c != .current) =
        ps.filterMap component? := by
    refine List.filter_eq_self.2 fun c hc => ?_
    obtain ⟨piece, -, hread⟩ := List.mem_filterMap.1 hc
    unfold component? at hread
    split at hread
    · cases hread
    split at hread <;> cases hread <;> rfl
  -- only the first piece can be a component that is no move
  rw [moves, hpieces]
  generalize p.components = cs at hbegins
  cases hbegins with
  | nothing => rfl
  | top _ => exact (hkept rest).symm
  | here _ => exact (hkept rest).symm
  | plain _ _ _ => exact (hkept (first :: rest)).symm

theorem component?_ne_root (piece : List UInt8) : component? piece ≠ some .root := by
  unfold component?
  split
  · nofun
  · split <;> nofun

/-- An absolute path starts at the top. -/
theorem isAbsolute_iff (p : Path) : p.isAbsolute = true ↔ p.components.head? = some .root := by
  obtain ⟨first, rest, hpieces, hbegins⟩ := exists_begins p
  have hbytes : p.bytes = [slash].intercalate (first :: rest) := by
    rw [← hpieces, pieces, Text.splitAt_eq_splitOn, List.intercalate_splitOn]
  have hslash : slash ∉ first := by
    intro hmem
    have hcut := Text.cut_of_mem_splitWhere (hpieces ▸ List.mem_cons_self) _ hmem
    exact absurd hcut (by decide)
  -- the path begins with a slash exactly if its first piece is empty and another one follows
  rw [isAbsolute, hbytes, beq_iff_eq]
  generalize p.components = cs at hbegins
  cases hbegins with
  | nothing => decide
  | top hne =>
      obtain ⟨piece, ps, rfl⟩ := List.exists_cons_of_ne_nil hne
      rw [List.intercalate_cons_cons]
      simp
  | here _ =>
      have hdot : dot ≠ slash := by decide
      cases rest <;> simp [List.intercalate_cons_cons, hdot]
  | plain _ given _ =>
      obtain ⟨c, cs, rfl⟩ := List.exists_cons_of_ne_nil given
      have hc : c ≠ slash := fun h => hslash (h ▸ List.mem_cons_self)
      refine iff_of_false ?_ fun hhead => ?_
      · cases rest <;> simp [List.intercalate_cons_cons, hc]
      · obtain ⟨piece, -, hread⟩ := List.mem_filterMap.1 (List.mem_of_head? hhead)
        exact component?_ne_root piece hread

end Path

end FirmwareCatalog
