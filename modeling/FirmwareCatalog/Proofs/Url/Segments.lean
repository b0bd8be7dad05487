/-
**Segments below a base.**

A segment that is placed below a base address becomes one more segment of the path, and decoding that
gives its bytes.  There are three exceptions.  One or two dots are not placed at all.  A segment that
is one dot once tabs and line ends are dropped is an empty segment.  And one that is two dots then
takes the segment before it away, and leaves an empty one there.

However that goes, whatever is placed below the segments of a root stays below them: an empty segment
is what the next pair of dots takes away.

Main definitions:

* `BaseUrl.keepPlaces` — segments that become one segment each;
* `BaseUrl.Inside` — segments below those of a root.

Main results:

* `BaseUrl.isDot_encodeSegment_iff`, `BaseUrl.isDotDot_encodeSegment_iff` — which written segments
  are dots;
* `BaseUrl.push_eq` — **what a segment does to a path**;
* `BaseUrl.foldl_push_eq_append_iff` — only segments that keep their places become one segment each;
* `BaseUrl.foldl_push_inside` — **segments never lead above the root**;
* `UrlPath.segments_injective` — a path is known by its text, if no segment has a slash.
-/
import FirmwareCatalog.Proofs.Text.Digits
import FirmwareCatalog.Proofs.Url.Percent
import FirmwareCatalog.Url.Base

set_option relaxedAutoImplicit false
set_option autoImplicit false

namespace FirmwareCatalog

/-! ### Schemes of the web -/

theorem Scheme.isSpecial_of_isWeb {scheme : List Char} (h : isWeb scheme = true) :
    isSpecial scheme = true := by
  rw [isWeb, Bool.or_eq_true, beq_iff_eq, beq_iff_eq] at h
  rcases h with rfl | rfl
  · rfl
  · rfl

theorem Scheme.beq_file_of_isWeb {scheme : List Char} (h : isWeb scheme = true) :
    (scheme == file) = false := by
  rw [isWeb, Bool.or_eq_true, beq_iff_eq, beq_iff_eq] at h
  rcases h with rfl | rfl
  · rfl
  · rfl

namespace Url

/-! ### Layout -/

theorem withoutLayout_eq_self {s : List Char} (h : ∀ c ∈ s, isLayout c = false) :
    withoutLayout s = s := by
  rw [withoutLayout, List.filter_eq_self]
  intro c hc
  rw [h c hc]
  rfl

theorem isLayout_letter {c : Char} (h : isLetter c = true) : isLayout c = false := by
  rw [isLayout, Bool.or_eq_false_iff, Bool.or_eq_false_iff]
  refine ⟨⟨?_, ?_⟩, ?_⟩
  all_goals
    rw [beq_eq_false_iff_ne]
    rintro rfl
    cases h

/-! ### Dots -/

/-- A letter in lower case is the character itself, or stands 32 places after it. -/
theorem toLower_cases (c : Char) :
    c.toLower = c ∨ c.toLower.toNat = c.toNat + 32 ∧ 65 ≤ c.toNat ∧ c.toNat ≤ 90 := by
  by_cases h : 'A'.val ≤ c.val ∧ c.val ≤ 'Z'.val
  · have hlow : 65 ≤ c.toNat := h.1
    have hhigh : c.toNat ≤ 90 := h.2
    have hcode : c.toLower.toNat = (c.val + ('a'.val - 'A'.val)).toNat :=
      congrArg Char.toNat (dif_pos h)
    have hsum : (c.val + ('a'.val - 'A'.val)).toNat = (c.toNat + 32) % 4294967296 :=
      UInt32.toNat_add _ _
    rw [hcode, hsum, Nat.mod_eq_of_lt (by omega)]
    exact Or.inr ⟨rfl, hlow, hhigh⟩
  · exact Or.inl (dif_neg h)

theorem eq_of_toLower_eq {c d : Char} (h : c.toLower = d) (hd : d.toNat < 97) : c = d := by
  rcases toLower_cases c with hc | ⟨hc, hlow, -⟩
  · rw [← h, hc]
  · rw [h] at hc
    omega

theorem eq_of_toLower_eq_e {c : Char} (h : c.toLower = 'e') : c = 'e' ∨ c = 'E' := by
  rcases toLower_cases c with hc | ⟨hc, -, -⟩
  · rw [← h, hc]
    exact Or.inl rfl
  · rw [h] at hc
    have he : 'e'.toNat = 101 := rfl
    have hnat : c.toNat = 69 := by omega
    rw [← Char.ofNat_toNat c, hnat]
    exact Or.inr rfl

def dots : List (List Char) := [['.'], ['%', '2', 'e']]

/-- A dot is decoded, however it is written. -/
theorem decode_of_dot {d : List Char} (hd : d ∈ dots) {s t : List Char}
    (h : s.map Char.toLower = d ++ t) :
    ∃ s', s'.map Char.toLower = t ∧ Percent.decode s = Utf8.encode ['.'] ++ Percent.decode s' := by
  rw [dots, List.mem_cons, List.mem_singleton] at hd
  rcases hd with rfl | rfl
  · obtain ⟨c, s', rfl, hc, hs⟩ := List.map_eq_cons_iff.1 h
    rw [eq_of_toLower_eq hc (by decide)]
    exact ⟨s', hs, Percent.decode_cons_of_ne (by decide) s'⟩
  · obtain ⟨a, s₁, rfl, ha, h₁⟩ := List.map_eq_cons_iff.1 h
    obtain ⟨b, s₂, rfl, hb, h₂⟩ := List.map_eq_cons_iff.1 h₁
    obtain ⟨e, s₃, rfl, he, h₃⟩ := List.map_eq_cons_iff.1 h₂
    rw [eq_of_toLower_eq ha (by decide), eq_of_toLower_eq hb (by decide)]
    refine ⟨s₃, h₃, ?_⟩
    rcases eq_of_toLower_eq_e he with rfl | rfl
    · rfl
    · rfl

theorem exists_dot_of_isDot {s : List Char} (h : isDot s = true) :
    ∃ d ∈ dots, s.map Char.toLower = d := by
  rw [isDot, Bool.or_eq_true, beq_iff_eq, beq_iff_eq] at h
  rcases h with rfl | h
  · exact ⟨['.'], by decide, rfl⟩
  · exact ⟨['%', '2', 'e'], by decide, h⟩

theorem exists_dots_of_isDotDot {s : List Char} (h : isDotDot s = true) :
    ∃ d ∈ dots, ∃ d' ∈ dots, s.map Char.toLower = d ++ d' := by
  rw [isDotDot, List.contains_iff_mem] at h
  simp only [List.mem_cons, List.not_mem_nil, or_false] at h
  rcases h with h | h | h | h
  · exact ⟨['.'], by decide, ['.'], by decide, h⟩
  · exact ⟨['.'], by decide, ['%', '2', 'e'], by decide, h⟩
  · exact ⟨['%', '2', 'e'], by decide, ['.'], by decide, h⟩
  · exact ⟨['%', '2', 'e'], by decide, ['%', '2', 'e'], by decide, h⟩

theorem decode_of_isDot {s : List Char} (h : isDot s = true) :
    Percent.decode s = Utf8.encode ['.'] := by
  obtain ⟨d, hd, hs⟩ := exists_dot_of_isDot h
  rw [← List.append_nil d] at hs
  obtain ⟨s', hs', hdecode⟩ := decode_of_dot hd hs
  rw [hdecode, List.map_eq_nil_iff.1 hs']
  rfl

theorem decode_of_isDotDot {s : List Char} (h : isDotDot s = true) :
    Percent.decode s = Utf8.encode ['.', '.'] := by
  obtain ⟨d, hd, d', hd', hs⟩ := exists_dots_of_isDotDot h
  obtain ⟨s', hs', hfirst⟩ := decode_of_dot hd hs
  rw [← List.append_nil d'] at hs'
  obtain ⟨s'', hs'', hsecond⟩ := decode_of_dot hd' hs'
  rw [hfirst, hsecond, List.map_eq_nil_iff.1 hs'']
  rfl

/-! ### Drives -/

/-- The name of a drive is a letter and one of two signs. -/
theorem isDrive_eq_true_iff {s : List Char} :
    isDrive s = true ↔ ∃ c d, s = [c, d] ∧ isLetter c = true ∧ (d = ':' ∨ d = '|') := by
  constructor
  · intro h
    match s, h with
    | [c, d], h =>
      rw [isDrive, Bool.and_eq_true, Bool.or_eq_true, beq_iff_eq, beq_iff_eq] at h
      exact ⟨c, d, rfl, h.1, h.2⟩
  · rintro ⟨c, d, rfl, hletter, hd⟩
    rw [isDrive, hletter, Bool.true_and, Bool.or_eq_true, beq_iff_eq, beq_iff_eq]
    exact hd

end Url

namespace BaseUrl

/-! ### Written segments -/

theorem segmentSet_sign (scheme : List Char) : segmentSet scheme '%' = true := by
  rw [segmentSet]
  split <;> rfl

theorem decode_encodeSegment (scheme s : List Char) :
    Percent.decode (encodeSegment scheme s) = Utf8.encode (Url.withoutLayout s) :=
  Percent.decode_encode (segmentSet_sign scheme) _

theorem plain_of_specialSegment {c : Char} (h : Percent.specialSegment c = false) :
    c.toNat < 128 ∧ c ∉ ['/', '?', '#', '\\'] := by
  simp only [Percent.specialSegment, Percent.segment, Percent.path, Percent.fragment,
    Percent.control, Bool.or_eq_false_iff, decide_eq_false_iff_not, List.contains_eq_mem,
    List.mem_cons, List.not_mem_nil, or_false, not_or, beq_eq_false_iff_ne] at h ⊢
  obtain ⟨⟨⟨⟨⟨-, hascii⟩, -⟩, hsign, hmark, -⟩, hslash, -⟩, hback⟩ := h
  exact ⟨by omega, hslash, hmark, hsign, hback⟩

/-- **A written segment is ASCII and separates nothing.** -/
theorem plain_of_mem_encodeSegment {scheme s : List Char} {c : Char}
    (hspecial : Scheme.isSpecial scheme = true) (hc : c ∈ encodeSegment scheme s) :
    c.toNat < 128 ∧ c ∉ ['/', '?', '#', '\\'] := by
  have hset : segmentSet scheme = Percent.specialSegment := by rw [segmentSet, if_pos hspecial]
  rw [encodeSegment, hset] at hc
  exact Percent.forall_mem_encode (p := fun c => c.toNat < 128 ∧ c ∉ ['/', '?', '#', '\\'])
    (by decide) (by decide) (fun c _ => plain_of_specialSegment) hc

theorem withoutLayout_eq_of_decode {scheme s t : List Char}
    (h : Percent.decode (encodeSegment scheme s) = Utf8.encode t) : Url.withoutLayout s = t := by
  rw [decode_encodeSegment] at h
  exact Utf8.encode_injective h

/-- The one dot that is written is that of a segment of one dot. -/
theorem isDot_encodeSegment_iff {scheme s : List Char} :
    Url.isDot (encodeSegment scheme s) = true ↔ Url.withoutLayout s = ['.'] := by
  constructor
  · intro h
    exact withoutLayout_eq_of_decode (Url.decode_of_isDot h)
  · intro h
    rw [encodeSegment, h, segmentSet]
    split <;> rfl

/-- The two dots that are written are those of a segment of two dots. -/
theorem isDotDot_encodeSegment_iff {scheme s : List Char} :
    Url.isDotDot (encodeSegment scheme s) = true ↔ Url.withoutLayout s = ['.', '.'] := by
  constructor
  · intro h
    exact withoutLayout_eq_of_decode (Url.decode_of_isDotDot h)
  · intro h
    rw [encodeSegment, h, segmentSet]
    split <;> rfl

/-- Letters stand for themselves in segments. -/
theorem segmentSet_letter (scheme : List Char) {c : Char} (h : Url.isLetter c = true) :
    segmentSet scheme c = false := by
  have hcode : 65 ≤ c.toNat ∧ c.toNat ≤ 90 ∨ 97 ≤ c.toNat ∧ c.toNat ≤ 122 := by
    have hcase : (c.isUpper || c.isLower) = true := h
    rcases Bool.or_eq_true_iff.1 hcase with hupper | hlower
    · exact Or.inl (of_decide_eq_true hupper)
    · obtain ⟨hlow, hhigh⟩ := Bool.and_eq_true_iff.1 hlower
      exact Or.inr ⟨of_decide_eq_true hlow, of_decide_eq_true hhigh⟩
  -- no character of the lists is a letter
  have hlist {l : List Char} (hl : l.all fun d => !Url.isLetter d) : c ∉ l := by
    intro hc
    have hnot := List.all_eq_true.1 hl c hc
    rw [h] at hnot
    cases hnot
  have hspecial : Percent.specialSegment c = false := by
    simp only [Percent.specialSegment, Percent.segment, Percent.path, Percent.fragment,
      Percent.control, Bool.or_eq_false_iff, decide_eq_false_iff_not, List.contains_eq_mem]
    refine ⟨⟨⟨⟨⟨by omega, by omega⟩, hlist (by decide)⟩, hlist (by decide)⟩, hlist (by decide)⟩, ?_⟩
    have hback : c ∉ ['\\'] := hlist (by decide)
    simpa using hback
  rw [segmentSet]
  split
  · exact hspecial
  · rw [Percent.specialSegment, Bool.or_eq_false_iff] at hspecial
    exact hspecial.1

theorem encodeSegment_letters (scheme : List Char) {s : List Char}
    (h : ∀ c ∈ s, Url.isLetter c = true) : encodeSegment scheme s = s := by
  rw [encodeSegment, Url.withoutLayout_eq_self fun c hc => Url.isLayout_letter (h c hc)]
  exact Percent.encode_eq_self fun c hc => segmentSet_letter scheme (h c hc)

/-- A written segment names a drive if the segment does. -/
theorem isDrive_encodeSegment (scheme s : List Char) :
    Url.isDrive (encodeSegment scheme s) = Url.isDrive (Url.withoutLayout s) := by
  rw [Bool.eq_iff_iff]
  constructor
  · intro h
    -- nothing in the name of a drive is encoded
    have hself : Percent.decode (encodeSegment scheme s) = Utf8.encode (encodeSegment scheme s) := by
      obtain ⟨c, d, heq, hletter, hd⟩ := Url.isDrive_eq_true_iff.1 h
      rw [heq]
      refine Percent.decode_of_not_mem fun hmem => ?_
      rcases List.mem_cons.1 hmem with rfl | hmem
      · cases hletter
      · rcases hd with rfl | rfl <;> cases List.mem_singleton.1 hmem
    rwa [withoutLayout_eq_of_decode hself]
  · intro h
    obtain ⟨c, d, heq, hletter, hd⟩ := Url.isDrive_eq_true_iff.1 h
    have hset : segmentSet scheme d = false := by
      rw [segmentSet]
      rcases hd with rfl | rfl
      · split <;> rfl
      · split <;> rfl
    have hself : Percent.encode (segmentSet scheme) [c, d] = [c, d] := by
      refine Percent.encode_eq_self fun x hx => ?_
      rcases List.mem_cons.1 hx with rfl | hx
      · exact segmentSet_letter scheme hletter
      · rw [List.mem_singleton.1 hx, hset]
    rw [encodeSegment, heq, hself]
    exact Url.isDrive_eq_true_iff.2 ⟨c, d, rfl, hletter, hd⟩

/-! ### The segments of a base -/

theorem getLast?_trimEmpty (ss : List (List Char)) : (trimEmpty ss).getLast? ≠ some [] := by
  rw [trimEmpty, List.getLast?_reverse]
  intro h
  have hhead := List.head?_dropWhile_not List.isEmpty ss.reverse
  rw [h] at hhead
  exact absurd hhead (by decide)

theorem nameDrive_of_isWeb {scheme : List Char} (hweb : Scheme.isWeb scheme = true)
    (ss : List (List Char)) : nameDrive scheme ss = ss := by
  cases ss with
  | nil => rfl
  | cons s rest => simp [nameDrive, Scheme.beq_file_of_isWeb hweb]

/-- The base of an address of the web keeps scheme and authority, and all segments but the empty
ones at the end. -/
theorem ofUrl?_eq_some {u : Url} {b : BaseUrl} (hweb : Scheme.isWeb b.scheme = true)
    (h : ofUrl? u = some b) :
    ∃ ss, u.path = .segments ss ∧ b = ⟨u.scheme, u.authority, u.setOff, trimEmpty ss⟩ := by
  rw [ofUrl?] at h
  split at h
  case h_1 => cases h
  case h_2 ss hpath =>
    cases h
    refine ⟨ss, hpath, ?_⟩
    rw [nameDrive_of_isWeb hweb]

theorem renderChars_withSegments (b : BaseUrl) (ss : List (List Char)) :
    (b.withSegments ss).renderChars =
      b.scheme ++ ':' :: b.toUrl.authorityText ++ (UrlPath.segments ss).render := by
  rw [Url.renderChars]
  exact (List.append_nil _).trans (List.append_nil _)

/-! ### Placing segments -/

def written (scheme s : List Char) : List Char :=
  if Url.withoutLayout s = ['.'] then [] else encodeSegment scheme s

theorem isDrive_written (scheme s : List Char) :
    Url.isDrive (written scheme s) = Url.isDrive (Url.withoutLayout s) := by
  rw [written]
  split
  case isTrue h =>
      rw [h]
      rfl
  case isFalse => exact isDrive_encodeSegment scheme s

/-- Some segment of the path is not empty. -/
def Filled (ss : List (List Char)) : Prop := ∃ s ∈ ss, s ≠ []

theorem Filled.ne_nil {ss : List (List Char)} (h : Filled ss) : ss ≠ [] := by
  rintro rfl
  obtain ⟨s, hs, -⟩ := h
  cases hs

theorem Filled.ne_slash {ss : List (List Char)} (h : Filled ss) : ss ≠ [[]] := by
  rintro rfl
  obtain ⟨s, hs, hne⟩ := h
  exact hne (List.mem_singleton.1 hs)

theorem Filled.append {ss : List (List Char)} (h : Filled ss) (ts : List (List Char)) :
    Filled (ss ++ ts) := by
  obtain ⟨s, hs, hne⟩ := h
  exact ⟨s, List.mem_append_left ts hs, hne⟩

/-- **What a segment does to a path** that is not that of a file. -/
theorem push_eq {scheme : List Char} (hfile : (scheme == Scheme.file) = false)
    {ss : List (List Char)} (hss : ss ≠ [[]]) (s : List Char) :
    push scheme ss s =
      if s = ['.'] ∨ s = ['.', '.'] then ss
      else if Url.withoutLayout s = ['.', '.'] then Url.up ss ++ [[]]
      else ss ++ [written scheme s] := by
  rw [push, if_neg hss, Url.place, hfile, written]
  simp only [isDotDot_encodeSegment_iff, isDot_encodeSegment_iff, if_true, Bool.false_and,
    Bool.false_eq_true, if_false]
  repeat' split
  all_goals rfl

def isLeftOut (s : List Char) : Bool := s == ['.'] || s == ['.', '.']

theorem isLeftOut_eq_false_iff {s : List Char} :
    isLeftOut s = false ↔ s ≠ ['.'] ∧ s ≠ ['.', '.'] := by
  rw [isLeftOut, Bool.or_eq_false_iff, beq_eq_false_iff_ne, beq_eq_false_iff_ne]

/-- A segment becomes one more segment behind the given one: it is not left out, and it is not two
dots without its tabs and line ends, unless the one before names a drive. -/
def keepsPlace (before s : List Char) : Bool :=
  !isLeftOut s && (Url.withoutLayout s != ['.', '.'] || Url.isDrive (Url.withoutLayout before))

/-- Each of the segments becomes one more segment behind the one before it. -/
def keepPlaces : List Char → List (List Char) → Bool
  | _, [] => true
  | before, s :: rest => keepsPlace before s && keepPlaces s rest

/-- A segment that keeps its place is added, and can be told to name a drive. -/
theorem push_of_keepsPlace {scheme : List Char} (hfile : (scheme == Scheme.file) = false)
    {ss : List (List Char)} (hss : Filled ss) {before s : List Char}
    (hbefore : ss.getLast?.any Url.isDrive = Url.isDrive (Url.withoutLayout before))
    (h : keepsPlace before s = true) :
    ∃ x, push scheme ss s = ss ++ [x] ∧ Url.isDrive x = Url.isDrive (Url.withoutLayout s) := by
  rw [keepsPlace, Bool.and_eq_true, Bool.not_eq_true', isLeftOut_eq_false_iff, Bool.or_eq_true,
    bne_iff_ne] at h
  obtain ⟨⟨hdot, hdots⟩, hkept⟩ := h
  rw [push_eq hfile hss.ne_slash, if_neg (not_or.2 ⟨hdot, hdots⟩)]
  by_cases hup : Url.withoutLayout s = ['.', '.']
  · -- two dots do not leave the drive before them
    have hdrive : Url.isDrive (Url.withoutLayout before) = true := hkept.resolve_left fun h => h hup
    rw [if_pos hup, Url.up, hbefore, if_pos hdrive, hup]
    exact ⟨[], rfl, rfl⟩
  · rw [if_neg hup]
    exact ⟨written scheme s, rfl, isDrive_written scheme s⟩

/-- A segment that does not keep its place makes a path no longer. -/
theorem length_push_of_not_keepsPlace {scheme : List Char}
    (hfile : (scheme == Scheme.file) = false) {ss : List (List Char)} (hss : Filled ss)
    {before s : List Char}
    (hbefore : ss.getLast?.any Url.isDrive = Url.isDrive (Url.withoutLayout before))
    (h : keepsPlace before s = false) : (push scheme ss s).length ≤ ss.length := by
  rw [push_eq hfile hss.ne_slash]
  by_cases hout : s = ['.'] ∨ s = ['.', '.']
  · exact Nat.le_of_eq (by rw [if_pos hout])
  · have hkept : isLeftOut s = false := isLeftOut_eq_false_iff.2 (not_or.1 hout)
    rw [keepsPlace, hkept, Bool.not_false, Bool.true_and, Bool.or_eq_false_iff,
      bne_eq_false_iff_eq] at h
    obtain ⟨hup, hdrive⟩ := h
    have hlength := List.length_pos_iff.2 hss.ne_nil
    rw [if_neg hout, if_pos hup, Url.up, hbefore, hdrive]
    simp only [Bool.false_eq_true, if_false, List.length_append, List.length_dropLast,
      List.length_singleton]
    omega

/-- Segments without tabs and line ends that are neither one nor two dots are added as they are
written. -/
theorem foldl_push_plain {scheme : List Char} (hfile : (scheme == Scheme.file) = false)
    {args ss : List (List Char)} (hss : Filled ss)
    (hdots : ∀ s ∈ args, s ≠ ['.'] ∧ s ≠ ['.', '.'])
    (hlayout : ∀ s ∈ args, ∀ c ∈ s, Url.isLayout c = false) :
    args.foldl (push scheme) ss = ss ++ args.map (encodeSegment scheme) := by
  induction args generalizing ss with
  | nil => simp
  | cons s args ih =>
      have hself := Url.withoutLayout_eq_self (hlayout s List.mem_cons_self)
      obtain ⟨hdot, hdotdot⟩ := hdots s List.mem_cons_self
      have hstep : push scheme ss s = ss ++ [encodeSegment scheme s] := by
        rw [push_eq hfile hss.ne_slash, if_neg (not_or.2 ⟨hdot, hdotdot⟩), hself, if_neg hdotdot,
          written, hself, if_neg hdot]
      have hrest := ih (hss.append [encodeSegment scheme s])
        (fun t ht => hdots t (List.mem_cons_of_mem _ ht))
        (fun t ht => hlayout t (List.mem_cons_of_mem _ ht))
      rw [List.foldl_cons, hstep, hrest, List.append_assoc]
      rfl

theorem length_up_le (ss : List (List Char)) : (Url.up ss).length ≤ ss.length := by
  rw [Url.up]
  split
  · exact Nat.le_refl _
  · rw [List.length_dropLast]
    omega

/-- A segment makes a path longer by one segment at most. -/
theorem length_push_le (scheme : List Char) (ss : List (List Char)) (s : List Char) :
    (push scheme ss s).length ≤ ss.length + 1 := by
  have hplace (ts : List (List Char)) (t : List Char) (file : Bool) :
      (Url.place file true ts t).length ≤ ts.length + 1 := by
    have hup := length_up_le ts
    rw [Url.place]
    repeat' split
    all_goals simp <;> omega
  rw [push]
  split
  · omega
  · refine Nat.le_trans (hplace _ _ _) ?_
    split <;> simp

theorem length_foldl_push_le (scheme : List Char) (ss args : List (List Char)) :
    (args.foldl (push scheme) ss).length ≤ ss.length + args.length := by
  induction args generalizing ss with
  | nil => exact Nat.le_refl _
  | cons s args ih =>
      have hstep := length_push_le scheme ss s
      have hrest := ih (push scheme ss s)
      rw [List.foldl_cons, List.length_cons]
      omega

/-- Segments that keep their places become one segment each, and any others make the path shorter. -/
theorem foldl_push_cases {scheme : List Char} (hfile : (scheme == Scheme.file) = false)
    {ss : List (List Char)} (hss : Filled ss) {before : List Char}
    (hbefore : ss.getLast?.any Url.isDrive = Url.isDrive (Url.withoutLayout before))
    (args : List (List Char)) :
    keepPlaces before args = true ∧
        (∃ xs, xs.length = args.length ∧ args.foldl (push scheme) ss = ss ++ xs) ∨
      keepPlaces before args = false ∧
        (args.foldl (push scheme) ss).length < ss.length + args.length := by
  induction args generalizing ss before with
  | nil => exact Or.inl ⟨rfl, [], rfl, (List.append_nil ss).symm⟩
  | cons s args ih =>
      rw [List.foldl_cons, keepPlaces, List.length_cons]
      rcases hkeeps : keepsPlace before s with _ | _
      · -- one segment is missing, and the rest cannot make up for it
        have hstep := length_push_of_not_keepsPlace hfile hss hbefore hkeeps
        have hrest := length_foldl_push_le scheme (push scheme ss s) args
        exact Or.inr ⟨rfl, by omega⟩
      · obtain ⟨x, hx, hdrive⟩ := push_of_keepsPlace hfile hss hbefore hkeeps
        have hlast : (ss ++ [x]).getLast?.any Url.isDrive = Url.isDrive (Url.withoutLayout s) := by
          rw [List.getLast?_concat, Option.any_some, hdrive]
        rw [hx, Bool.true_and]
        rcases ih (hss.append [x]) hlast with ⟨hkeep, xs, hlength, heq⟩ | ⟨hkeep, hlt⟩
        · refine Or.inl ⟨hkeep, x :: xs, by rw [List.length_cons, hlength], ?_⟩
          rw [heq, List.append_assoc]
          rfl
        · rw [List.length_append, List.length_singleton] at hlt
          exact Or.inr ⟨hkeep, by omega⟩

/-- **Segments become one segment each exactly if all of them keep their places.** -/
theorem foldl_push_eq_append_iff {scheme : List Char} (hfile : (scheme == Scheme.file) = false)
    {ss : List (List Char)} (hss : Filled ss) {before : List Char}
    (hbefore : ss.getLast?.any Url.isDrive = Url.isDrive (Url.withoutLayout before))
    (args : List (List Char)) :
    (∃ xs, xs.length = args.length ∧ args.foldl (push scheme) ss = ss ++ xs) ↔
      keepPlaces before args = true := by
  rcases foldl_push_cases hfile hss hbefore args with ⟨hkeep, hxs⟩ | ⟨hkeep, hlt⟩
  · exact ⟨fun _ => hkeep, fun _ => hxs⟩
  · constructor
    · rintro ⟨xs, hlength, heq⟩
      rw [heq, List.length_append, hlength] at hlt
      exact absurd hlt (Nat.lt_irrefl _)
    · intro h
      rw [hkeep] at h
      cases h

theorem push_ne_nil (scheme : List Char) {ss : List (List Char)} (h : ss ≠ []) (s : List Char) :
    push scheme ss s ≠ [] := by
  rw [push]
  split
  · exact h
  · simp only [Url.place, if_true]
    repeat' split
    all_goals simp

/-! ### The root -/

/-- Segments that go on below those of a root. -/
def Inside (root ss : List (List Char)) : Prop := ∃ below, below ≠ [] ∧ ss = root ++ below

theorem Inside.append_singleton {root ss : List (List Char)} (h : Inside root ss)
    (s : List Char) : Inside root (ss ++ [s]) := by
  obtain ⟨below, -, rfl⟩ := h
  exact ⟨below ++ [s], by simp, List.append_assoc _ _ _⟩

theorem Inside.up_append {root ss : List (List Char)} (h : Inside root ss) :
    Inside root (Url.up ss ++ [[]]) := by
  obtain ⟨below, hne, rfl⟩ := h
  rw [Url.up]
  split
  · exact ⟨below ++ [[]], by simp, List.append_assoc _ _ _⟩
  · rw [List.dropLast_append_of_ne_nil hne]
    exact ⟨below.dropLast ++ [[]], by simp, List.append_assoc _ _ _⟩

/-- One more segment stays below the root. -/
theorem Inside.push {scheme : List Char} (hfile : (scheme == Scheme.file) = false)
    {root ss : List (List Char)} (h : Inside root ss) (s : List Char) :
    Inside root (push scheme ss s) := by
  by_cases hss : ss = [[]]
  · -- a single empty segment lies below the empty root only, and nothing leads above that
    obtain ⟨below, hne, heq⟩ := h
    have hroot : root = [] := by
      have hlength := congrArg List.length heq
      have hpos := List.length_pos_iff.2 hne
      rw [hss, List.length_append, List.length_singleton] at hlength
      exact List.length_eq_zero_iff.1 (by omega)
    subst hroot
    exact ⟨_, push_ne_nil scheme (by simp [hss]) s, rfl⟩
  · rw [push_eq hfile hss]
    repeat' split
    · exact h
    · exact h.up_append
    · exact h.append_singleton _

/-- **Whatever is placed below a root stays below it.** -/
theorem foldl_push_inside {scheme : List Char} (hfile : (scheme == Scheme.file) = false)
    {root ss : List (List Char)} (h : Inside root ss) (args : List (List Char)) :
    Inside root (args.foldl (push scheme) ss) := by
  induction args generalizing ss with
  | nil => exact h
  | cons s args ih =>
      rw [List.foldl_cons]
      exact ih (h.push hfile s)

end BaseUrl

/-! ### Paths as texts -/

theorem UrlPath.stops_render (ss : List (List Char)) :
    Text.Stops (· != '/') (UrlPath.segments ss).render := by
  cases ss with
  | nil => exact Text.stops_nil _
  | cons s ss => simp [UrlPath.render]

/-- **A path is known by its text**, if no segment has a slash. -/
theorem UrlPath.segments_injective {ss ts : List (List Char)} (hss : ∀ s ∈ ss, '/' ∉ s)
    (hts : ∀ t ∈ ts, '/' ∉ t)
    (h : (UrlPath.segments ss).render = (UrlPath.segments ts).render) : ss = ts := by
  have hrun {s : List Char} (hs : '/' ∉ s) : ∀ c ∈ s, (c != '/') = true := by
    intro c hc
    rw [bne_iff_ne]
    rintro rfl
    exact hs hc
  induction ss generalizing ts with
  | nil =>
      cases ts with
      | nil => rfl
      | cons t ts => cases h
  | cons s ss ih =>
      cases ts with
      | nil => cases h
      | cons t ts =>
          have htail : s ++ (UrlPath.segments ss).render = t ++ (UrlPath.segments ts).render :=
            (List.cons.inj h).2
          have hs := hrun (hss s List.mem_cons_self)
          have ht := hrun (hts t List.mem_cons_self)
          -- the first segment goes up to the next slash
          have hhead : s = t := by
            rw [← Text.takeWhile_append_stop hs (stops_render ss), htail,
              Text.takeWhile_append_stop ht (stops_render ts)]
          subst hhead
          have hrest := ih (fun u hu => hss u (List.mem_cons_of_mem _ hu))
            (fun u hu => hts u (List.mem_cons_of_mem _ hu)) (List.append_cancel_left htail)
          rw [hrest]

end FirmwareCatalog
