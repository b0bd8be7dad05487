/-
**Addresses of the web.**

An address of the web always has a host, and a path of segments.  In such a path no segment has a
character that separates parts of an address: a slash or a backslash ends the segment, a question mark
or a hash sign ends the path, and what is beyond ASCII is encoded.  So the text of the path has one
slash for each segment, and it is a path up to its end.

Placing further segments below a base keeps that, whatever they are: a segment is encoded before it is
placed, and all that is placed beside it are empty segments.

Main definitions:

* `Url.IsPlain` — segments that separate nothing.

Main results:

* `Url.parse_of_isWeb` — addresses of the web have an authority, and segments after it;
* `Url.isPlain_segmentsAfterHost` — **the segments of such an address are plain**;
* `BaseUrl.isPlain_foldl_push` — what is placed below plain segments leaves them plain;
* `UrlPath.count_render` — **a path of plain segments has a slash for each of them, and no other**.
-/
import FirmwareCatalog.Proofs.Outcome
import FirmwareCatalog.Proofs.Text.Pieces
import FirmwareCatalog.Proofs.Url.Segments

set_option relaxedAutoImplicit false
set_option autoImplicit false

namespace FirmwareCatalog

namespace Url

/-! ### What is placed in a path -/

theorem mem_of_mem_up {ss : List (List Char)} {x : List Char} (h : x ∈ up ss) : x ∈ ss := by
  rw [up] at h
  split at h
  · exact h
  · exact (List.dropLast_sublist ss).subset h

/-- A path that is not that of a file gets the new segment, or an empty one in its place. -/
theorem mem_place {last : Bool} {ss : List (List Char)} {s x : List Char}
    (h : x ∈ place false last ss s) : x ∈ ss ∨ x = [] ∨ x = s := by
  have hdots {ts : List (List Char)} (h : x ∈ ts ++ if last then [[]] else []) :
      x ∈ ts ∨ x = [] := by
    rcases List.mem_append.1 h with h | h
    · exact Or.inl h
    · split at h
      · exact Or.inr (List.mem_singleton.1 h)
      · cases h
  rw [place, Bool.false_and, Bool.false_and] at h
  split at h
  · exact (hdots h).imp mem_of_mem_up Or.inl
  · split at h
    · exact (hdots h).imp_right Or.inl
    · rcases List.mem_append.1 h with h | h
      · exact Or.inl h
      · exact Or.inr (Or.inr (List.mem_singleton.1 h))

/-- A path that is not that of a file gets the new segments, and empty ones. -/
theorem mem_placeAll {ss ps : List (List Char)} {x : List Char} (h : x ∈ placeAll false ss ps) :
    x ∈ ss ∨ x = [] ∨ x ∈ ps := by
  induction ps generalizing ss with
  | nil => exact Or.inl h
  | cons s ps ih =>
      have hhead {last : Bool} (h : x ∈ place false last ss s) : x ∈ ss ∨ x = [] ∨ x ∈ s :: ps :=
        (mem_place h).imp_right (Or.imp_right fun (hx : x = s) => hx ▸ List.mem_cons_self)
      cases ps with
      | nil => exact hhead h
      | cons t rest =>
          rcases ih h with h | h | h
          · exact hhead h
          · exact Or.inr (Or.inl h)
          · exact Or.inr (Or.inr (List.mem_cons_of_mem s h))

/-! ### Segments that separate nothing -/

/-- The segment is ASCII, and has none of the characters that separate the parts of an address. -/
def IsPlain (s : List Char) : Prop := ∀ c ∈ s, c.toNat < 128 ∧ c ∉ ['/', '?', '#', '\\']

theorem isPlain_nil : IsPlain [] := by
  intro c hc
  cases hc

theorem IsPlain.slash_not_mem {s : List Char} (h : IsPlain s) : '/' ∉ s := by
  intro hmem
  exact (h '/' hmem).2 (by decide)

/-- A piece between slashes is plain once it is encoded. -/
theorem isPlain_encode {s : List Char} (h : ∀ c ∈ s, isSlash true c = false) :
    IsPlain (Percent.encode Percent.path s) := by
  intro c hc
  refine Percent.forall_mem_encode (p := fun c => c.toNat < 128 ∧ c ∉ ['/', '?', '#', '\\'])
    (by decide) (by decide) (fun d hd hset => ?_) hc
  have hslash := h d hd
  simp only [isSlash, Bool.true_and, Bool.or_eq_false_iff, beq_eq_false_iff_ne] at hslash
  simp only [Percent.path, Percent.fragment, Percent.control, Bool.or_eq_false_iff,
    decide_eq_false_iff_not, List.contains_eq_mem, List.mem_cons, List.not_mem_nil, or_false,
    not_or] at hset ⊢
  obtain ⟨⟨⟨-, hascii⟩, -⟩, hsign, hmark, -⟩ := hset
  exact ⟨by omega, hslash.1, hmark, hsign, hslash.2⟩

/-- **The segments of an address of the web are plain.** -/
theorem isPlain_segmentsAfterHost {scheme path : List Char} (hweb : Scheme.isWeb scheme = true) :
    ∀ s ∈ segmentsAfterHost scheme path, IsPlain s := by
  intro s hs
  have hspecial := Scheme.isSpecial_of_isWeb hweb
  have hfile := Scheme.beq_file_of_isWeb hweb
  simp only [segmentsAfterHost, segmentsOf, placed, splitSlashes, hspecial, hfile, Bool.not_true,
    Bool.and_false, Bool.false_eq_true, if_false] at hs
  rcases mem_placeAll hs with hs | rfl | hs
  · cases hs
  · exact isPlain_nil
  · obtain ⟨piece, hpiece, rfl⟩ := List.mem_map.1 hs
    exact isPlain_encode (Text.cut_of_mem_splitWhere hpiece)

/-! ### Schemes -/

theorem withAuthority_eq_ok {scheme s : List Char} {u : Url}
    (h : withAuthority scheme s = .ok u) :
    ∃ a path, u.scheme = scheme ∧ u.authority = some a ∧
      u.path = .segments (segmentsAfterHost scheme path) := by
  rw [withAuthority] at h
  obtain ⟨⟨a, below⟩, -, h⟩ := bind_eq_ok_iff.1 h
  cases h
  exact ⟨a, _, rfl, rfl, rfl⟩

/-- The address of a file has the scheme of files. -/
theorem scheme_of_ofFile {s : List Char} {u : Url} (h : ofFile s = .ok u) :
    u.scheme = Scheme.file := by
  simp only [ofFile] at h
  split at h
  · split at h
    · split at h
      · cases h
        rfl
      · obtain ⟨host, -, h⟩ := bind_eq_ok_iff.1 h
        split at h
        · cases h
          rfl
        · cases h
          rfl
    · cases h
      rfl
  · cases h
    rfl

/-- Any other address has the scheme that it is read with. -/
theorem scheme_of_ofOther {scheme s : List Char} {u : Url} (h : ofOther scheme s = .ok u) :
    u.scheme = scheme := by
  unfold ofOther at h
  split at h
  · obtain ⟨a, path, hscheme, -⟩ := withAuthority_eq_ok h
    exact hscheme
  · simp only [splitPath] at h
    split at h
    · cases h
      rfl
    · cases h
      rfl

/-- **An address of the web has an authority, and segments after it.** -/
theorem parse_of_isWeb {text : String} {u : Url} (h : parse text = .ok u)
    (hweb : Scheme.isWeb u.scheme = true) :
    ∃ a path, u.authority = some a ∧ u.path = .segments (segmentsAfterHost u.scheme path) := by
  rw [parse, parseChars] at h
  split at h
  case h_1 => cases h
  case h_2 scheme rest _ =>
    -- Of the three ways to read what follows, two leave a scheme that is not one of the web.
    split at h
    case isTrue =>
      rw [scheme_of_ofFile h] at hweb
      cases hweb
    case isFalse =>
      split at h
      case isTrue =>
        obtain ⟨a, path, rfl, ha, hpath⟩ := withAuthority_eq_ok h
        exact ⟨a, path, ha, hpath⟩
      case isFalse hspecial =>
        rw [scheme_of_ofOther h] at hweb
        exact absurd (Scheme.isSpecial_of_isWeb hweb) hspecial

end Url

/-! ### Texts of paths -/

/-- **A path of plain segments has a slash for each of them, and no other.** -/
theorem UrlPath.count_render {ss : List (List Char)} (h : ∀ s ∈ ss, Url.IsPlain s) :
    (UrlPath.segments ss).render.count '/' = ss.length := by
  induction ss with
  | nil => rfl
  | cons s ss ih =>
      have hrest := ih fun t ht => h t (List.mem_cons_of_mem s ht)
      have hhead := List.count_eq_zero.2 (h s List.mem_cons_self).slash_not_mem
      rw [render] at hrest ⊢
      rw [List.flatMap_cons, List.count_append, hrest, List.count_cons_self, hhead, List.length_cons]
      omega

namespace BaseUrl

/-! ### Segments below a base -/

/-- A path of the web gets the new segment as it is written, or an empty one in its place. -/
theorem mem_push {scheme : List Char} (hfile : (scheme == Scheme.file) = false)
    {ss : List (List Char)} {s x : List Char} (h : x ∈ push scheme ss s) :
    x ∈ ss ∨ x = [] ∨ x = encodeSegment scheme s := by
  rw [push, hfile] at h
  split at h
  · exact Or.inl h
  · rcases Url.mem_place h with h | h
    · split at h
      · cases h
      · exact Or.inl h
    · exact Or.inr h

/-- **Whatever is placed below plain segments leaves them plain.** -/
theorem isPlain_foldl_push {scheme : List Char} (hweb : Scheme.isWeb scheme = true)
    {ss : List (List Char)} (hss : ∀ s ∈ ss, Url.IsPlain s) (args : List (List Char)) :
    ∀ s ∈ args.foldl (push scheme) ss, Url.IsPlain s := by
  induction args generalizing ss with
  | nil => exact hss
  | cons a args ih =>
      refine ih fun s hs => ?_
      rcases mem_push (Scheme.beq_file_of_isWeb hweb) hs with hs | rfl | rfl
      · exact hss s hs
      · exact Url.isPlain_nil
      · intro c hc
        exact plain_of_mem_encodeSegment (Scheme.isSpecial_of_isWeb hweb) hc

theorem foldl_push_ne_nil (scheme : List Char) {ss : List (List Char)} (h : ss ≠ [])
    (args : List (List Char)) : args.foldl (push scheme) ss ≠ [] := by
  induction args generalizing ss with
  | nil => exact h
  | cons a args ih => exact ih (push_ne_nil scheme h a)

end BaseUrl

end FirmwareCatalog
