/-
**Hosts are read as they are shown.**

A host is an address in brackets, or a name.  In brackets there are digits and colons only, so the
bracket at the end closes what the one at the start has opened.  A name is in ASCII and has none of
the characters that are refused; in particular it has no percent sign, no colon and nothing that
would end an authority, and it is its own ASCII form.  A name that is meant as a number is an
address of four bytes, whose digits and dots are a name of that kind as well.

Main definitions:

* `Url.IsHostText` — texts of hosts.

Main results:

* `Domain.toAscii?_of_digits` — digits and dots are a name in ASCII already;
* `Url.isHostText_render` — the text of a host, and where it ends;
* `Url.namedHost_render` — **a host is read as it is shown**.
-/
import FirmwareCatalog.Proofs.Text.Utf8
import FirmwareCatalog.Proofs.Url.Address
import FirmwareCatalog.Proofs.Url.Domain
import FirmwareCatalog.Proofs.Url.Percent
import FirmwareCatalog.Url.Reader

set_option relaxedAutoImplicit false
set_option autoImplicit false

namespace FirmwareCatalog

/-! ### Digits and dots -/

namespace Domain

theorem direction_digit : ∀ c ∈ "0123456789".toList, Idna.direction c = .number :=
  List.forall_iff_forall_mem.1 (by decide +kernel)

theorem mem_of_isDigit {c : Char} (h : c.isDigit = true) : c ∈ "0123456789".toList := by
  have hall : ∀ n < 10, Char.ofNat (48 + n) ∈ "0123456789".toList := by decide
  simp only [Char.isDigit, Bool.and_eq_true, decide_eq_true_eq] at h
  have hlow : 48 ≤ c.toNat := h.1
  have hhigh : c.toNat ≤ 57 := h.2
  have hcode : 48 + (c.toNat - 48) = c.toNat := by omega
  have hmem := hall (c.toNat - 48) (by omega)
  rw [hcode, Char.ofNat_toNat] at hmem
  exact hmem

theorem plain_digit : ∀ c ∈ "0123456789".toList,
    c.toNat < 0x80 ∧ isRefused c = false ∧ c ∈ Idna.plain ∧ c ≠ 'x' :=
  List.forall_iff_forall_mem.1 (by decide)

section Label

variable {piece : List Char} (h : ∀ c ∈ piece, c ∈ "0123456789".toList)

include h

/-- Digits are a label as they stand. -/
theorem label?_of_digits : label? piece = some piece := by
  have hrefused : piece.any isRefused = false := by
    rw [List.any_eq_false]
    intro c hc
    rw [(plain_digit c (h c hc)).2.1]
    exact Bool.false_ne_true
  have hmark : mark.isPrefixOf piece = false := by
    cases piece with
    | nil => rfl
    | cons c piece =>
        have hne : ('x' == c) = false :=
          beq_eq_false_iff_ne.2 (Ne.symm (plain_digit c (h c List.mem_cons_self)).2.2.2)
        rw [mark, List.isPrefixOf, hne, Bool.false_and]
  have hascii : piece.all isAscii = true :=
    List.all_eq_true.2 fun c hc => decide_eq_true (plain_digit c (h c hc)).1
  rw [label?, hrefused, hmark, hascii]
  rfl

theorem renderLabel_of_digits : renderLabel piece = piece :=
  if_pos (List.all_eq_true.2 fun c hc => decide_eq_true (plain_digit c (h c hc)).1)

theorem runsBackward_of_digits : Idna.runsBackward piece = false := by
  rw [Bool.eq_false_iff]
  intro hbackward
  obtain ⟨c, hc, hdirection⟩ := List.any_eq_true.1 hbackward
  rw [direction_digit c (h c hc)] at hdirection
  cases hdirection

end Label

/-- **Digits and dots are a name in ASCII already.** -/
theorem toAscii?_of_digits {s : List Char} (h : ∀ c ∈ s, c.isDigit = true ∨ c = '.') :
    toAscii? s = some s := by
  have hascii : ∀ c ∈ s, c.toNat < 0x80 ∧ Idna.isKept c = true := by
    intro c hc
    rcases h c hc with hdigit | rfl
    · obtain ⟨hlt, -, hmem, -⟩ := plain_digit c (mem_of_isDigit hdigit)
      exact ⟨hlt, Idna.isKept_of_mem_plain hmem⟩
    · exact ⟨by decide, Idna.isKept_of_mem_plain (by decide)⟩
  have hdigits : ∀ piece ∈ Text.splitAt '.' s, ∀ c ∈ piece, c ∈ "0123456789".toList := by
    intro piece hpiece c hc
    refine mem_of_isDigit ((h c (Text.mem_of_mem_splitWhere hpiece hc)).resolve_right ?_)
    rintro rfl
    exact absurd (Text.cut_of_mem_splitWhere hpiece '.' hc) (by decide)
  have hlabels : (Text.splitAt '.' s).mapM label? = some (Text.splitAt '.' s) := by
    rw [mapM_eq_some_iff, List.forall₂_same]
    exact fun piece hpiece => label?_of_digits (hdigits piece hpiece)
  have hrender : (Text.splitAt '.' s).map renderLabel = Text.splitAt '.' s :=
    (List.map_congr_left fun piece hpiece =>
      renderLabel_of_digits (hdigits piece hpiece)).trans (List.map_id _)
  have hforward : (Text.splitAt '.' s).any Idna.runsBackward = false := by
    rw [List.any_eq_false]
    exact fun piece hpiece =>
      Bool.eq_false_iff.1 (runsBackward_of_digits (hdigits piece hpiece))
  have hjoined : ['.'].intercalate (Text.splitAt '.' s) = s := by
    rw [Text.splitAt_eq_splitOn, List.intercalate_splitOn]
  unfold toAscii?
  rw [mapped?_of_kept fun c hc => (hascii c hc).2,
    Idna.normalize_of_ascii fun c hc => (hascii c hc).1]
  simp only [Option.bind_eq_bind, Option.bind_some, hlabels, hforward, hrender, hjoined,
    Bool.false_and, Bool.false_eq_true, if_false]

end Domain

namespace Url

/-! ### Texts of hosts -/

/-- The text of a host.  It separates nothing, and a colon behind it ends it. -/
structure IsHostText (s : List Char) : Prop where
  ne_nil : s ≠ []
  plain : ∀ c ∈ s, 0x20 < c.toNat ∧ c.toNat < 0x80 ∧ c ∉ ['/', '\\', '?', '#', '@']
  ends : ∀ t : List Char, (∀ c ∈ t.head?, c = ':') → hostLength false (s ++ t) = s.length

theorem hostLength_append {inside : Bool} {s : List Char}
    (h : ∀ c ∈ s, c ≠ '[' ∧ c ≠ ']' ∧ (inside = false → c ≠ ':')) (t : List Char) :
    hostLength inside (s ++ t) = hostLength inside t + s.length := by
  induction s with
  | nil => rfl
  | cons c s ih =>
      obtain ⟨hopen, hclose, hcolon⟩ := h c List.mem_cons_self
      have hnot : ¬(c = ':' ∧ inside = false) := fun hc => hcolon hc.2 hc.1
      rw [List.cons_append, hostLength, if_neg hnot, if_neg hopen, if_neg hclose,
        ih fun d hd => h d (List.mem_cons_of_mem c hd), List.length_cons, Nat.add_assoc]

theorem hostLength_ends {t : List Char} (h : ∀ c ∈ t.head?, c = ':') : hostLength false t = 0 := by
  cases t with
  | nil => rfl
  | cons c t => rw [hostLength, if_pos ⟨h c rfl, rfl⟩]

/-- A name is the text of a host if none of its characters is refused. -/
theorem isHostText_of_not_refused {s : List Char} (hne : s ≠ [])
    (h : ∀ c ∈ s, c.toNat < 0x80 ∧ Domain.isRefused c = false) : IsHostText s := by
  have hkind : ∀ c ∈ s, 0x20 < c.toNat ∧ c ∉ ['%', '#', '/', ':', '<', '>', '?', '@', '[', '\\',
      ']', '^', '|'] := by
    intro c hc
    have hrefused := (h c hc).2
    simp only [Domain.isRefused, Bool.or_eq_false_iff, decide_eq_false_iff_not] at hrefused
    obtain ⟨⟨hlow, -⟩, hlist⟩ := hrefused
    refine ⟨Nat.not_le.1 hlow, ?_⟩
    rw [← List.contains_iff_mem, hlist]
    exact Bool.false_ne_true
  refine ⟨hne, fun c hc => ⟨(hkind c hc).1, (h c hc).1, fun hmem => (hkind c hc).2 ?_⟩,
    fun t ht => ?_⟩
  · have hsub : ∀ d ∈ ['/', '\\', '?', '#', '@'], d ∈ ['%', '#', '/', ':', '<', '>', '?', '@', '[',
        '\\', ']', '^', '|'] := List.forall_iff_forall_mem.1 (by decide)
    exact hsub c hmem
  · rw [hostLength_append (fun c hc => ?_), hostLength_ends ht, Nat.zero_add]
    have hout := (hkind c hc).2
    simp only [List.mem_cons, List.not_mem_nil, or_false, not_or] at hout
    tauto

/-- The text of an address of eight groups. -/
theorem mem_render_ipv6 {a : Ipv6} {c : Char} (h : c ∈ a.render) :
    c = ':' ∨ ∃ d < 16, c = Nat.digitChar d := by
  have hgroups {gs : List UInt16} (hc : c ∈ Ipv6.renderGroups gs) :
      c = ':' ∨ ∃ d < 16, c = Nat.digitChar d := by
    refine (Text.mem_intercalate hc).imp_right ?_
    rintro ⟨piece, hpiece, hc⟩
    obtain ⟨g, -, rfl⟩ := List.mem_map.1 hpiece
    exact Text.exists_of_mem_toDigits (by decide) hc
  rw [Ipv6.render] at h
  dsimp only at h
  split at h
  · exact hgroups h
  · rcases List.mem_append.1 h with h | h
    · rcases List.mem_append.1 h with h | h
      · exact hgroups h
      · simp only [List.mem_cons, List.not_mem_nil, or_false, or_self] at h
        exact Or.inl h
    · exact hgroups h

/-- The text of an address of eight groups in brackets is the text of a host. -/
theorem isHostText_ipv6 (a : Ipv6) : IsHostText (Host.ipv6 a).render := by
  have hall : ∀ d < 16, (0x20 < (Nat.digitChar d).toNat ∧ (Nat.digitChar d).toNat < 0x80 ∧
      Nat.digitChar d ∉ ['/', '\\', '?', '#', '@']) ∧ Nat.digitChar d ≠ '[' ∧
        Nat.digitChar d ≠ ']' := by decide
  have hkind : ∀ c ∈ a.render, (0x20 < c.toNat ∧ c.toNat < 0x80 ∧
      c ∉ ['/', '\\', '?', '#', '@']) ∧ c ≠ '[' ∧ c ≠ ']' := by
    intro c hc
    rcases mem_render_ipv6 hc with rfl | ⟨d, hd, rfl⟩
    · decide
    · exact hall d hd
  refine ⟨by simp [Host.render], fun c hc => ?_, fun t ht => ?_⟩
  · rw [Host.render, List.cons_append, List.mem_cons, List.mem_append, List.mem_singleton] at hc
    rcases hc with rfl | hc | rfl
    · decide
    · exact (hkind c hc).1
    · decide
  · have hinside : hostLength true (a.render ++ ']' :: t) =
        hostLength true (']' :: t) + a.render.length :=
      hostLength_append (fun c hc => ⟨(hkind c hc).2.1, (hkind c hc).2.2, fun h => by cases h⟩) _
    have hopen : hostLength false ('[' :: (a.render ++ ']' :: t)) =
        hostLength true (a.render ++ ']' :: t) + 1 := rfl
    have hclose : hostLength true (']' :: t) = hostLength false t + 1 := rfl
    rw [hclose, hostLength_ends ht] at hinside
    rw [Host.render, List.cons_append, List.cons_append, List.append_assoc, List.singleton_append,
      hopen, hinside, List.length_cons, List.length_append, List.length_singleton]
    omega

theorem mem_render_ipv4 {a : Ipv4} {c : Char} (h : c ∈ a.render) : c.isDigit = true ∨ c = '.' := by
  rcases Text.mem_intercalate h with rfl | ⟨piece, hpiece, hc⟩
  · exact Or.inr rfl
  · obtain ⟨n, -, rfl⟩ := List.mem_map.1 hpiece
    exact Or.inl (Text.isDigit_of_mem_toDigits hc)

/-- **The hosts that are read**: an address in brackets, a name, or an address that a name is. -/
theorem namedHost_cases {s : List Char} {host : Host} (h : namedHost s = .ok host) :
    (∃ a, host = .ipv6 a) ∨ (∃ a, host = .ipv4 a) ∨
      ∃ name t, host = .name name ∧ Domain.toAscii? t = some name ∧ name ≠ [] ∧
        Ipv4.isMeant name = false := by
  rw [namedHost] at h
  split at h
  case isTrue =>
    rw [bracketed] at h
    split at h
    · split at h
      · cases h
        exact Or.inl ⟨_, rfl⟩
      · cases h
    · cases h
  case isFalse =>
    split at h
    case h_1 => cases h
    case h_2 name hname =>
      split at h
      case isTrue => cases h
      case isFalse hne =>
        split at h
        case isTrue =>
          split at h
          · cases h
            exact Or.inr (Or.inl ⟨_, rfl⟩)
          · cases h
        case isFalse hmeant =>
          cases h
          exact Or.inr (Or.inr ⟨name, _, rfl, hname, by simpa using hne,
            Bool.eq_false_iff.2 hmeant⟩)

theorem of_mem_render_ipv4 {a : Ipv4} {c : Char} (h : c ∈ a.render) :
    c.toNat < 0x80 ∧ Domain.isRefused c = false := by
  have hall : ∀ c ∈ '.' :: "0123456789".toList, c.toNat < 0x80 ∧ Domain.isRefused c = false :=
    List.forall_iff_forall_mem.1 (by decide)
  rcases mem_render_ipv4 h with hdigit | rfl
  · exact hall c (List.mem_cons_of_mem _ (Domain.mem_of_isDigit hdigit))
  · exact hall '.' List.mem_cons_self

/-- **The text of a host** separates nothing, and a colon behind it ends it. -/
theorem isHostText_render {s : List Char} {host : Host} (h : namedHost s = .ok host) :
    IsHostText host.render := by
  rcases namedHost_cases h with ⟨a, rfl⟩ | ⟨a, rfl⟩ | ⟨name, t, rfl, hname, hne, -⟩
  · exact isHostText_ipv6 a
  · refine isHostText_of_not_refused (fun hnil => ?_) fun c hc => of_mem_render_ipv4 hc
    have hmeant := Ipv4.isMeant_render a
    rw [show a.render = [] from hnil] at hmeant
    cases hmeant
  · exact isHostText_of_not_refused hne (Domain.toAscii?_idem hname).2

/-- A name that has no character that is refused is read as it stands. -/
theorem namedHost_of_toAscii? {name : List Char} (hascii : Domain.toAscii? name = some name)
    (hne : name ≠ []) (h : ∀ c ∈ name, c.toNat < 0x80 ∧ Domain.isRefused c = false) {host : Host}
    (hhost : (Ipv4.isMeant name = true ∧ ∃ a, Ipv4.parse? name = some a ∧ host = .ipv4 a) ∨
      Ipv4.isMeant name = false ∧ host = .name name) :
    namedHost name = .ok host := by
  have hbracket : name.head? ≠ some '[' := by
    intro hhead
    exact absurd (h '[' (List.mem_of_mem_head? hhead)).2 (by decide)
  have hsign : '%' ∉ name := by
    intro hmem
    exact absurd (h '%' hmem).2 (by decide)
  have hnonempty : name.isEmpty = false := by simpa using hne
  rw [namedHost, if_neg hbracket, Percent.decode_of_not_mem hsign, Utf8.decodeLossy_encode, hascii]
  dsimp only
  rw [hnonempty, if_neg Bool.false_ne_true]
  rcases hhost with ⟨hmeant, a, hparse, rfl⟩ | ⟨hmeant, rfl⟩
  · rw [hmeant, if_pos rfl, hparse]
  · rw [hmeant, if_neg Bool.false_ne_true]

/-- **A host is read as it is shown.** -/
theorem namedHost_render {s : List Char} {host : Host} (h : namedHost s = .ok host) :
    namedHost host.render = .ok host := by
  have htext := isHostText_render h
  rcases namedHost_cases h with ⟨a, rfl⟩ | ⟨a, rfl⟩ | ⟨name, t, rfl, hname, hne, hmeant⟩
  · have hlast : (Host.ipv6 a).render.getLast? = some ']' :=
      List.getLast?_concat (l := '[' :: a.render)
    have hinner : ((Host.ipv6 a).render.drop 1).dropLast = a.render := List.dropLast_concat
    rw [namedHost, if_pos (by rfl), bracketed, hlast, hinner, Ipv6.parse?_render]
    rfl
  · exact namedHost_of_toAscii? (Domain.toAscii?_of_digits fun c hc => mem_render_ipv4 hc)
      htext.ne_nil (fun c hc => of_mem_render_ipv4 hc)
      (Or.inl ⟨Ipv4.isMeant_render a, a, Ipv4.parse?_render a, rfl⟩)
  · obtain ⟨hsame, hrefused⟩ := Domain.toAscii?_idem hname
    exact namedHost_of_toAscii? hsame hne hrefused (Or.inr ⟨hmeant, rfl⟩)

end Url

end FirmwareCatalog
