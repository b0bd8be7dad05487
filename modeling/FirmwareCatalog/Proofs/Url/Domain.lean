/-
**Names in ASCII.**

The ASCII form of a host name is its own ASCII form.  A label that is ASCII stays as it is.  Any
other one is written in Punycode, which is read back as that label; and the label is still one that
mapping and composing leave as it is, whether it came out of them or was written in Punycode
before.  What is inserted is beyond ASCII, so that no character with a meaning in an address, and no
dot, can come out of Punycode.

Main definitions:

* `Domain.IsLabel` — labels as they are meant.

Main results:

* `Domain.isLabel_of_label?` — what is read is such a label;
* `Domain.IsLabel.label?_renderLabel` — **such a label is read from its ASCII form**;
* `Domain.toAscii?_idem` — the ASCII form of a name is its own ASCII form.
-/
import FirmwareCatalog.Proofs.Outcome
import FirmwareCatalog.Proofs.Url.Idna.Mapping
import FirmwareCatalog.Proofs.Url.Punycode
import FirmwareCatalog.Url.Domain

set_option relaxedAutoImplicit false
set_option autoImplicit false

namespace FirmwareCatalog.Domain

variable {label raw name s : List Char} {c : Char}

/-! ### Labels -/

/-- A label as it is meant. -/
structure IsLabel (label : List Char) : Prop where
  dots : '.' ∉ label
  refused : ∀ c ∈ label, isRefused c = false
  kept : ∀ c ∈ label, Idna.isKept c = true
  normal : Idna.normalize label = label
  form : label.all isAscii = true ∧ mark.isPrefixOf label = false ∨
    label.all isAscii = false ∧ isWellFormed label = true

/-- Nothing beyond ASCII is refused. -/
theorem isRefused_of_not_ascii (h : 0x80 ≤ c.toNat) : isRefused c = false := by
  have hlist : ∀ d ∈ ['%', '#', '/', ':', '<', '>', '?', '@', '[', '\\', ']', '^', '|'],
      d.toNat < 0x80 := List.forall_iff_forall_mem.1 (by decide)
  rw [isRefused, Bool.or_eq_false_iff, Bool.or_eq_false_iff]
  refine ⟨⟨?_, ?_⟩, ?_⟩
  · exact decide_eq_false (by omega)
  · rw [beq_eq_false_iff_ne]
    omega
  · rw [Bool.eq_false_iff, ne_eq, List.contains_iff_mem]
    intro hmem
    have hlt := hlist c hmem
    omega

/-- The label of Punycode. -/
theorem decoded?_eq_some_iff : decoded? s = some label ↔
    Punycode.decode? s = some label ∧ label.all isAscii = false ∧ label.all Idna.isKept = true ∧
      Idna.normalize label = label ∧ isWellFormed label = true := by
  rw [decoded?, Option.bind_eq_bind, Option.bind_eq_some_iff]
  constructor
  · rintro ⟨l, hdecode, hl⟩
    split at hl
    case isTrue => cases hl
    case isFalse hform =>
      obtain rfl := Option.some.inj hl
      simpa [and_assoc, hdecode] using hform
  · rintro ⟨hdecode, hascii, hkept, hnormal, hform⟩
    refine ⟨label, hdecode, ?_⟩
    rw [if_neg]
    simp [hascii, hkept, hnormal, hform]

/-- **What is read is a label as it is meant.** -/
theorem isLabel_of_label? (h : label? raw = some label) (hdots : '.' ∉ raw)
    (hkept : ∀ c ∈ raw, Idna.isKept c = true) (hnormal : Idna.normalize raw = raw) :
    IsLabel label := by
  rw [label?] at h
  split at h
  case isTrue => cases h
  case isFalse hrefused =>
    have hfree : ∀ c ∈ raw, isRefused c = false := by
      simpa using hrefused
    split at h
    case isTrue hmark =>
      dsimp only at h
      split at h
      case isTrue => cases h
      case isFalse =>
        -- what is decoded has nothing in ASCII that the form does not have
        obtain ⟨hdecode, hascii, hkept', hnormal', hform⟩ := decoded?_eq_some_iff.1 h
        have hfrom : ∀ c ∈ label, c.toNat < 0x80 → c ∈ raw := fun c hc hlt =>
          List.mem_of_mem_drop (Punycode.mem_of_decode? hdecode c hc hlt)
        refine ⟨fun hdot => hdots (hfrom '.' hdot (by decide)), fun c hc => ?_,
          List.all_eq_true.1 hkept', hnormal', Or.inr ⟨hascii, hform⟩⟩
        by_cases hlt : c.toNat < 0x80
        · exact hfree c (hfrom c hc hlt)
        · exact isRefused_of_not_ascii (by omega)
    case isFalse hmark =>
      split at h
      case isFalse => cases h
      case isTrue hform =>
        obtain rfl := Option.some.inj h
        refine ⟨hdots, hfree, hkept, hnormal, ?_⟩
        rw [Bool.or_eq_true] at hform
        rcases hascii : raw.all isAscii with _ | _
        · rw [hascii] at hform
          exact Or.inr ⟨rfl, hform.resolve_left Bool.false_ne_true⟩
        · exact Or.inl ⟨rfl, Bool.eq_false_iff.2 hmark⟩

/-- What a label is written with stands for itself in ASCII, and is neither refused nor a dot. -/
theorem IsLabel.of_mem_renderLabel (h : IsLabel label) (hc : c ∈ renderLabel label) :
    c.toNat < 0x80 ∧ c ≠ '.' ∧ isRefused c = false ∧ Idna.isKept c = true := by
  have hlabel (hmem : c ∈ label) (hascii : c.toNat < 0x80) :
      c.toNat < 0x80 ∧ c ≠ '.' ∧ isRefused c = false ∧ Idna.isKept c = true := by
    refine ⟨hascii, ?_, h.refused c hmem, h.kept c hmem⟩
    rintro rfl
    exact h.dots hmem
  have hdigit : ∀ d ∈ '-' :: Punycode.alphabet,
      d.toNat < 0x80 ∧ d ≠ '.' ∧ isRefused d = false ∧ d ∈ Idna.plain :=
    List.forall_iff_forall_mem.1 (by decide)
  have hpunycode (hmem : c ∈ '-' :: Punycode.alphabet) :
      c.toNat < 0x80 ∧ c ≠ '.' ∧ isRefused c = false ∧ Idna.isKept c = true := by
    obtain ⟨hascii, hdot, hrefused, hplain⟩ := hdigit c hmem
    exact ⟨hascii, hdot, hrefused, Idna.isKept_of_mem_plain hplain⟩
  rw [renderLabel] at hc
  split at hc
  case isTrue hascii => exact hlabel hc (of_decide_eq_true (List.all_eq_true.1 hascii c hc))
  case isFalse =>
    rcases List.mem_append.1 hc with hc | hc
    · have hmark : ∀ d ∈ mark, d ∈ '-' :: Punycode.alphabet :=
        List.forall_iff_forall_mem.1 (by decide)
      exact hpunycode (hmark c hc)
    · rcases Punycode.mem_of_mem_encode hc with ⟨hmem, hascii⟩ | rfl | hmem
      · exact hlabel hmem hascii
      · exact hpunycode List.mem_cons_self
      · exact hpunycode (List.mem_cons_of_mem _ hmem)

/-- **Such a label is read from its ASCII form.** -/
theorem IsLabel.label?_renderLabel (h : IsLabel label) :
    label? (renderLabel label) = some label := by
  have hrefused : (renderLabel label).any isRefused = false := by
    rw [List.any_eq_false]
    intro c hc
    rw [(h.of_mem_renderLabel hc).2.2.1]
    exact Bool.false_ne_true
  have hascii : (renderLabel label).all isAscii = true := by
    rw [List.all_eq_true]
    intro c hc
    exact decide_eq_true (h.of_mem_renderLabel hc).1
  rw [label?, hrefused, if_neg Bool.false_ne_true, hascii]
  rcases h.form with ⟨hlabel, hmark⟩ | ⟨hlabel, hform⟩
  · rw [renderLabel, hlabel, if_pos rfl, hmark]
    rfl
  · have hrender : renderLabel label = mark ++ Punycode.encode label := by
      rw [renderLabel, hlabel, if_neg Bool.false_ne_true]
    have hmark : mark.isPrefixOf (mark ++ Punycode.encode label) = true := by
      rw [List.isPrefixOf_iff_prefix]
      exact List.prefix_append _ _
    have hdecode := Punycode.decode?_encode label
    have hne : (Punycode.encode label).isEmpty = false := by
      rw [Bool.eq_false_iff, ne_eq, List.isEmpty_iff]
      intro hnil
      -- nothing but the empty label is written as nothing, and that one is ASCII
      rw [hnil] at hdecode
      have hempty : Punycode.decode? [] = some [] := by
        rw [Punycode.decode?_of_not_mem List.not_mem_nil, Punycode.inserted?]
        rfl
      obtain rfl := Option.some.inj (hempty.symm.trans hdecode)
      cases hlabel
    rw [hrender, hmark, if_pos rfl, List.drop_left]
    dsimp only
    rw [hne]
    exact decoded?_eq_some_iff.2
      ⟨hdecode, hlabel, List.all_eq_true.2 h.kept, h.normal, hform⟩

/-! ### Names -/

/-- Characters that stand for themselves are mapped to themselves. -/
theorem mapped?_of_kept (h : ∀ c ∈ s, Idna.isKept c = true) :
    mapped? s = some (Idna.normalize s) := by
  have hmap : ∃ texts, s.mapM Idna.mapChar? = some texts ∧ texts.flatten = s := by
    induction s with
    | nil => exact ⟨[], rfl, rfl⟩
    | cons c s ih =>
        obtain ⟨texts, hmap, hflatten⟩ := ih fun d hd => h d (List.mem_cons_of_mem c hd)
        have hc : Idna.mapChar? c = some [c] := beq_iff_eq.1 (h c List.mem_cons_self)
        refine ⟨[c] :: texts, ?_, by rw [List.flatten_cons, hflatten, List.singleton_append]⟩
        rw [List.mapM_cons, hc, hmap]
        rfl
  obtain ⟨texts, hmap, hflatten⟩ := hmap
  rw [mapped?, hmap, Option.bind_eq_bind, Option.bind_some, hflatten]

theorem of_mapped? (h : mapped? name = some s) :
    Idna.normalize s = s ∧ ∀ c ∈ s, Idna.isKept c = true := by
  rw [mapped?, Option.bind_eq_bind, Option.bind_eq_some_iff] at h
  obtain ⟨texts, htexts, hs⟩ := h
  obtain rfl := Option.some.inj hs
  refine ⟨Idna.normalize_normalize _, Idna.isClosed_isKept.normalize fun c hc => ?_⟩
  obtain ⟨text, htext, hc⟩ := List.mem_flatten.1 hc
  obtain ⟨d, -, hd⟩ := exists_of_mem_mapM htexts htext
  exact Idna.isKept_of_mem_mapChar? hd hc

section Joined

variable {labels : List (List Char)} (h : ∀ label ∈ labels, IsLabel label)

include h

theorem of_mem_joined : ∀ c ∈ ['.'].intercalate (labels.map renderLabel),
    c.toNat < 0x80 ∧ isRefused c = false ∧ Idna.isKept c = true := by
  intro c hc
  rcases Text.mem_intercalate hc with rfl | ⟨piece, hpiece, hc⟩
  · exact ⟨by decide, by decide, Idna.isKept_of_mem_plain (by decide)⟩
  · obtain ⟨label, hlabel, rfl⟩ := List.mem_map.1 hpiece
    obtain ⟨hascii, -, hrest⟩ := (h label hlabel).of_mem_renderLabel hc
    exact ⟨hascii, hrest⟩

theorem splitAt_joined (hne : labels ≠ []) :
    Text.splitAt '.' (['.'].intercalate (labels.map renderLabel)) = labels.map renderLabel := by
  rw [Text.splitAt_eq_splitOn, List.splitOn_intercalate '.' ?_ (by simpa using hne)]
  intro _ hlabel hdot
  obtain ⟨label, hmem, rfl⟩ := List.mem_map.1 hlabel
  exact ((h label hmem).of_mem_renderLabel hdot).2.1 rfl

theorem mapM_label?_joined : (labels.map renderLabel).mapM label? = some labels := by
  rw [mapM_eq_some_iff, List.forall₂_map_left_iff, List.forall₂_same]
  exact fun label hlabel => (h label hlabel).label?_renderLabel

end Joined

theorem isLabel_of_mapM {t : List Char} {labels : List (List Char)}
    (hnormal : Idna.normalize t = t) (hkept : ∀ c ∈ t, Idna.isKept c = true)
    (h : (Text.splitAt '.' t).mapM label? = some labels) : ∀ label ∈ labels, IsLabel label := by
  intro label hlabel
  obtain ⟨raw, hraw, hread⟩ := exists_of_mem_mapM h hlabel
  refine isLabel_of_label? hread (fun hdot => ?_)
    (fun c hc => hkept c (Text.mem_of_mem_splitWhere hraw hc))
    (Idna.normalize_of_mem_splitAt hnormal raw hraw)
  exact absurd (Text.cut_of_mem_splitWhere hraw '.' hdot) (by decide)

/-- **The ASCII form of a name is its own ASCII form**, and has no character that is refused. -/
theorem toAscii?_idem (h : toAscii? s = some name) :
    toAscii? name = some name ∧ ∀ c ∈ name, c.toNat < 0x80 ∧ isRefused c = false := by
  unfold toAscii? at h
  simp only [Option.bind_eq_bind, Option.bind_eq_some_iff] at h
  obtain ⟨t, ht, labels, hlabels, hname⟩ := h
  obtain ⟨hnormal, hkept⟩ := of_mapped? ht
  split at hname
  case isTrue => cases hname
  case isFalse hdirection =>
    obtain rfl := Option.some.inj hname
    have hne : labels ≠ [] := by
      rintro rfl
      have hlength := (mapM_eq_some_iff.1 hlabels).length_eq
      exact Text.splitWhere_ne_nil _ t (List.length_eq_zero_iff.1 hlength)
    have hall := isLabel_of_mapM hnormal hkept hlabels
    have hjoined := of_mem_joined hall
    refine ⟨?_, fun c hc => ⟨(hjoined c hc).1, (hjoined c hc).2.1⟩⟩
    -- what is shown is mapped to itself, so its labels and their directions are the same again
    unfold toAscii?
    rw [mapped?_of_kept fun c hc => (hjoined c hc).2.2,
      Idna.normalize_of_ascii fun c hc => (hjoined c hc).1]
    simp only [Option.bind_eq_bind, Option.bind_some, splitAt_joined hall hne,
      mapM_label?_joined hall]
    rw [if_neg hdirection]

end FirmwareCatalog.Domain
