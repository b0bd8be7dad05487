/-
**Composed forms, label by label.**

What a composed form is made of can be told from its text: if a kind of characters is closed under
taking apart and putting together, a text of that kind has a composed form of that kind.

A dot parts a text for good.  It is no mark, nothing joins to it, and it joins to nothing; so marks
stay behind it, and a text behind a dot is composed as on its own.  The labels of a name in composed
form are therefore composed forms themselves, which is what is asked of each of them.

Main definitions:

* `Idna.IsClosed` — kinds of characters closed under taking apart and putting together;
* `Idna.Composing.IsBehind` — how a composition stands behind a text and a dot.

Main results:

* `Idna.IsClosed.normalize` — **a composed form is of a closed kind if its text is**;
* `Idna.normalize_of_ascii` — a text of ASCII is its own composed form;
* `Idna.normalize_dot` — dots part a composed form;
* `Idna.normalize_of_mem_splitAt` — **the labels of a composed form are composed forms**.
-/
import FirmwareCatalog.Proofs.Text.Pieces
import FirmwareCatalog.Proofs.Url.Idna.Normal
import FirmwareCatalog.Url.Idna.Mapping

set_option relaxedAutoImplicit false
set_option autoImplicit false

namespace FirmwareCatalog.Idna

open Rows

variable {a b c w : Char} {s t : List Char}

/-! ### What composed texts are made of -/

/-- A kind of characters that is closed under taking apart and putting together. -/
structure IsClosed (p : Char → Prop) : Prop where
  apart : ∀ {c a b : Char}, parts? c = some (a, b) → p c → p a ∧ p b
  whole : ∀ {a b w : Char}, whole? a b = some w → p a → p b → p w
  korean : ∀ {c : Char}, covers korean c = true → p c

theorem covers_of_syllableParts? {cs : List Char} (h : syllableParts? c = some cs) :
    ∀ d ∈ cs, covers korean d = true := by
  intro d hd
  obtain ⟨n, rfl, hn⟩ := exists_of_mem_syllableParts? h hd
  exact (covers_korean (by omega)).2

/-- A syllable is Korean. -/
theorem covers_of_syllable? (h : syllable? a b = some w) : covers korean w = true := by
  unfold syllable? at h
  dsimp only at h
  split at h
  case isTrue =>
    rw [← Option.some.inj h]
    exact (covers_korean (by omega)).2
  case isFalse =>
    split at h
    case isTrue =>
      rw [← Option.some.inj h]
      exact (covers_korean (by omega)).2
    case isFalse => cases h

/-- What is of a closed kind comes apart into characters of that kind. -/
theorem IsClosed.decomposeChar {p : Char → Prop} (hp : IsClosed p) (n : Nat) (hc : p c) :
    ∀ d ∈ decomposeChar n c, p d := by
  induction n generalizing c with
  | zero =>
      intro d hd
      rw [List.mem_singleton.1 hd]
      exact hc
  | succ n ih =>
      intro d hd
      unfold Idna.decomposeChar at hd
      split at hd
      · rename_i hsyllable
        exact hp.korean (covers_of_syllableParts? hsyllable d hd)
      · rename_i hparts
        obtain ⟨ha, hb⟩ := hp.apart hparts hc
        rcases List.mem_append.1 hd with hd | hd
        · exact ih ha d hd
        · rw [List.mem_singleton.1 hd]
          exact hb
      · rw [List.mem_singleton.1 hd]
        exact hc

theorem IsClosed.join? {p : Char → Prop} (hp : IsClosed p) (h : join? a b = some w) (ha : p a)
    (hb : p b) : p w := by
  rw [Idna.join?] at h
  split at h
  · rename_i hsyllable
    obtain rfl := Option.some.inj h
    exact hp.korean (covers_of_syllable? hsyllable)
  · exact hp.whole h ha hb

/-- One more character of a closed kind leaves the text of that kind. -/
theorem IsClosed.add {p : Char → Prop} (hp : IsClosed p) {st : Composing}
    (hst : ∀ d ∈ st.text, p d) (hc : p c) : ∀ d ∈ (st.add c).text, p d := by
  have hbeside {text : List Char} (htext : text = st.text ++ [c]) : ∀ d ∈ text, p d := by
    intro d hd
    rw [htext] at hd
    rcases List.mem_append.1 hd with hd | hd
    · exact hst d hd
    · rw [List.mem_singleton.1 hd]
      exact hc
  rcases st.add_cases c with ⟨letter, whole, hletter, hjoin, -, heq⟩ | ⟨-, heq⟩ | ⟨-, heq⟩
  · have hp' : p whole := hp.join? hjoin (hst letter (by simp [Composing.text, hletter])) hc
    rw [heq]
    intro d hd
    simp only [Composing.text, Option.toList_some, List.mem_append, List.mem_singleton] at hd
    rcases hd with (hd | rfl) | hd
    · exact hst d (by simp [Composing.text, hd])
    · exact hp'
    · exact hst d (by simp [Composing.text, hd])
  · rw [heq]
    exact hbeside (by simp [Composing.text])
  · rw [heq]
    exact hbeside (by simp [Composing.text])

/-- **The composed form of a text of a closed kind is of that kind.** -/
theorem IsClosed.normalize {p : Char → Prop} (hp : IsClosed p) (hs : ∀ c ∈ s, p c) :
    ∀ c ∈ normalize s, p c := by
  have hfold (t : List Char) : ∀ {st : Composing}, (∀ d ∈ st.text, p d) → (∀ c ∈ t, p c) →
      ∀ d ∈ (t.foldl Composing.add st).text, p d := by
    induction t with
    | nil =>
        intro st hst _
        exact hst
    | cons c t ih =>
        intro st hst ht
        exact ih (hp.add hst (ht c List.mem_cons_self)) fun d hd => ht d (List.mem_cons_of_mem c hd)
  refine hfold _ (fun d hd => by cases hd) fun c hc => ?_
  obtain ⟨d, hd, hc⟩ := List.mem_flatMap.1 (mem_of_mem_reorder hc)
  exact hp.decomposeChar 4 (hs d hd) c hc

/-! ### Texts of ASCII -/

theorem join?_of_ascii (h : b.toNat < 0x80) (a : Char) : join? a b = none := by
  have hsyllable : syllable? a b = none := by
    unfold syllable?
    rw [if_neg (by omega), if_neg (by omega)]
  rw [join?, hsyllable]
  by_contra hwhole
  obtain ⟨w, hsome⟩ := Option.ne_none_iff_exists'.1 hwhole
  have hlt := ascii_lt_second_of_row (row_of_whole? hsome)
  omega

theorem add_of_ascii (h : b.toNat < 0x80) (st : Composing) :
    st.add b = ⟨st.text, some b, [], 0⟩ := by
  have hnone : st.letter.bind (join? · b) = none := by
    cases st.letter with
    | none => rfl
    | some a => exact join?_of_ascii h a
  unfold Composing.add
  simp only [hnone, ite_self, markClass_of_ascii h, if_true]

/-- A text of ASCII is composed already. -/
theorem compose_of_ascii (h : ∀ c ∈ s, c.toNat < 0x80) : compose s = s := by
  have hfold (t : List Char) : ∀ {st : Composing}, (∀ c ∈ t, c.toNat < 0x80) →
      (t.foldl Composing.add st).text = st.text ++ t := by
    induction t with
    | nil =>
        intro st _
        exact (List.append_nil _).symm
    | cons c t ih =>
        intro st ht
        rw [List.foldl_cons, ih fun d hd => ht d (List.mem_cons_of_mem c hd),
          add_of_ascii (ht c List.mem_cons_self)]
        simp [Composing.text]
  exact hfold s h

/-- **A text of ASCII is its own composed form.** -/
theorem normalize_of_ascii (h : ∀ c ∈ s, c.toNat < 0x80) : normalize s = s := by
  have horder : InOrder s := by
    refine List.Pairwise.isChain (List.pairwise_of_forall_mem_list fun a _ b hb => ?_)
    exact Or.inl (markClass_of_ascii (h b hb))
  rw [normalize, decompose_of_isAtom fun c hc => isAtom_of_ascii (h c hc),
    reorder_of_inOrder horder, compose_of_ascii h]

/-! ### Dots -/

/-- A dot joins to nothing. -/
theorem join?_dot (b : Char) : join? '.' b = none := by
  have hdot : '.'.toNat = 0x2E := rfl
  have hsyllable : syllable? '.' b = none := by
    unfold syllable?
    rw [if_neg (by omega), if_neg (by omega)]
  rw [join?, hsyllable]
  by_contra hwhole
  obtain ⟨w, hsome⟩ := Option.ne_none_iff_exists'.1 hwhole
  have hbit := isPairTable_pairs.firsts
  rw [(testBit_points _ _).2 (mem_column (row_of_whole? hsome) rfl)] at hbit
  cases hbit

/-- Marks stay behind the dot before them. -/
theorem reorder_dot (s t : List Char) :
    reorder (s ++ '.' :: t) = reorder s ++ '.' :: reorder t := by
  have hdot : markClass '.' = 0 := markClass_of_ascii (by decide)
  have hplace (c : Char) (s t : List Char) :
      placeMark c (s ++ '.' :: t) = placeMark c s ++ '.' :: t := by
    induction s with
    | nil => simp [placeMark, hdot]
    | cons d s ih =>
        rw [List.cons_append, placeMark, placeMark, ih]
        split
        · rfl
        · rfl
  induction s with
  | nil =>
      have hin : InOrder ('.' :: reorder t) := by
        cases htext : reorder t with
        | nil => exact List.IsChain.singleton _
        | cons c t' =>
            refine List.isChain_cons_cons.2 ⟨Or.inr ?_, htext ▸ inOrder_reorder t⟩
            rw [hdot]
            exact Nat.zero_le _
      exact placeMark_of_inOrder hin
  | cons c s ih =>
      rw [List.cons_append, reorder, List.foldr_cons, ← reorder, ih, hplace]
      rfl

/-- Two states, one of them behind a text and a dot. -/
def Composing.IsBehind (front : List Char) (st st' : Composing) : Prop :=
  st.marks = st'.marks ∧ st.last = st'.last ∧
    (st.finished = front ∧ st.letter = some '.' ∧ st'.finished = [] ∧ st'.letter = none ∨
      st.finished = front ++ '.' :: st'.finished ∧ st.letter = st'.letter)

theorem Composing.IsBehind.text {front : List Char} {st st' : Composing}
    (h : st.IsBehind front st') : st.text = front ++ '.' :: st'.text := by
  obtain ⟨hmarks, -, ⟨hfront, hletter, hfinished', hletter'⟩ | ⟨hfinished, hletter⟩⟩ := h
  · simp [Composing.text, hmarks, hfront, hletter, hfinished', hletter']
  · simp [Composing.text, hmarks, hfinished, hletter]

/-- Behind a dot a text is composed as on its own. -/
theorem Composing.IsBehind.add {front : List Char} {st st' : Composing} (h : st.IsBehind front st')
    (c : Char) : (st.add c).IsBehind front (st'.add c) := by
  have htext := h.text
  obtain ⟨hmarks, hlast, hletters⟩ := h
  have hjoin : st.letter.bind (join? · c) = st'.letter.bind (join? · c) := by
    rcases hletters with ⟨-, hletter, -, hletter'⟩ | ⟨-, hletter⟩
    · rw [hletter, hletter', Option.bind_some, Option.bind_none, join?_dot]
    · rw [hletter]
  unfold Composing.add
  simp only [hjoin, hmarks, hlast]
  split
  case h_1 hjoined =>
    rcases hletters with ⟨-, -, -, hletter'⟩ | ⟨hfinished, -⟩
    · rw [hletter', Option.bind_none, ite_self] at hjoined
      cases hjoined
    · exact ⟨rfl, rfl, Or.inr ⟨hfinished, rfl⟩⟩
  case h_2 =>
    split
    case isTrue => exact ⟨rfl, rfl, Or.inr ⟨htext, rfl⟩⟩
    case isFalse => exact ⟨rfl, rfl, hletters⟩

/-- **Dots part a composed form.** -/
theorem normalize_dot (s t : List Char) :
    normalize (s ++ '.' :: t) = normalize s ++ '.' :: normalize t := by
  have hfold (u : List Char) : ∀ {front : List Char} {st st' : Composing}, st.IsBehind front st' →
      (u.foldl Composing.add st).IsBehind front (u.foldl Composing.add st') := by
    induction u with
    | nil =>
        intro front st st' h
        exact h
    | cons c u ih =>
        intro front st st' h
        exact ih (h.add c)
  have hdecompose : decompose (s ++ '.' :: t) = decompose s ++ '.' :: decompose t := by
    have hdot : decomposeChar 4 '.' = ['.'] := (isAtom_of_ascii (by decide)).decomposeChar 4
    have hhead : decompose ('.' :: t) = '.' :: decompose t := by
      rw [decompose, List.flatMap_cons, hdot, ← decompose, List.singleton_append]
    rw [decompose_append, hhead]
  have hcompose (x y : List Char) : compose (x ++ '.' :: y) = compose x ++ '.' :: compose y := by
    have hstart : Composing.IsBehind (compose x) ⟨compose x, some '.', [], 0⟩ ⟨[], none, [], 0⟩ :=
      ⟨rfl, rfl, Or.inl ⟨rfl, rfl, rfl, rfl⟩⟩
    rw [compose, List.foldl_append, List.foldl_cons, add_of_ascii (by decide)]
    exact (hfold y hstart).text
  rw [normalize, hdecompose, reorder_dot, hcompose, ← normalize, ← normalize]

/-- Between dots, texts are composed one by one. -/
theorem normalize_intercalate (ls : List (List Char)) :
    normalize (['.'].intercalate ls) = ['.'].intercalate (ls.map normalize) := by
  induction ls with
  | nil => exact normalize_of_ascii fun c hc => by cases hc
  | cons l ls ih =>
      cases ls with
      | nil => simp
      | cons m ls =>
          rw [List.map_cons] at ih
          rw [List.map_cons, List.map_cons, List.intercalate_cons_cons, List.intercalate_cons_cons,
            List.append_assoc, List.append_assoc, List.singleton_append, List.singleton_append,
            normalize_dot, ih]

/-- Composing adds no dots. -/
theorem isClosed_ne_dot : IsClosed (· ≠ '.') where
  apart {c a b} hparts hc := by
    have hrow := row_of_parts? hparts
    have hdot : '.'.toNat = 0x2E := rfl
    constructor
    · rintro rfl
      have hbit := isPairTable_pairs.firsts
      rw [(testBit_points _ _).2 (mem_column hrow rfl)] at hbit
      cases hbit
    · rintro rfl
      have hlt := ascii_lt_second_of_row hrow
      omega
  whole {a b w} hwhole ha hb := by
    have hdot : '.'.toNat = 0x2E := rfl
    rintro rfl
    have hlt := ascii_lt_of_row (row_of_whole? hwhole)
    omega
  korean {c} hc := by
    rintro rfl
    revert hc
    decide

/-- **The pieces between the dots of a composed form are composed forms.** -/
theorem normalize_of_mem_splitAt (h : normalize s = s) :
    ∀ l ∈ Text.splitAt '.' s, normalize l = l := by
  have hne : (Text.splitAt '.' s).map normalize ≠ [] := by
    rw [ne_eq, List.map_eq_nil_iff]
    exact Text.splitWhere_ne_nil _ s
  have hdots : ∀ l ∈ (Text.splitAt '.' s).map normalize, '.' ∉ l := by
    intro _ hpiece hdot
    obtain ⟨l, hl, rfl⟩ := List.mem_map.1 hpiece
    refine isClosed_ne_dot.normalize (fun c hc hcdot => ?_) '.' hdot rfl
    have hcut := Text.cut_of_mem_splitWhere hl c hc
    rw [hcdot] at hcut
    cases hcut
  have hpieces : (Text.splitAt '.' s).map normalize = Text.splitAt '.' s := by
    have hjoined : ['.'].intercalate (Text.splitAt '.' s) = s := by
      rw [Text.splitAt_eq_splitOn, List.intercalate_splitOn]
    calc (Text.splitAt '.' s).map normalize
        = Text.splitAt '.' (['.'].intercalate ((Text.splitAt '.' s).map normalize)) := by
          rw [Text.splitAt_eq_splitOn '.' (['.'].intercalate _),
            List.splitOn_intercalate '.' hdots hne]
      _ = Text.splitAt '.' s := by rw [← normalize_intercalate, hjoined, h]
  exact List.map_inj_left.1 (hpieces.trans (List.map_id _).symm)

end FirmwareCatalog.Idna
