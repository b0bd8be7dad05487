/-
**Composing can be undone.**

A text is taken apart, put in order and composed.  While it is composed, the text so far, taken
apart and put in order again, is always what has been read: a character joins a letter only past
marks of lower classes, and in the order of marks it stands before them just as well.  So a composed
text comes apart into what it was composed from, and composing that gives it again.

What joins comes apart into the same two parts, as every composed character stands in the table
once, and Korean syllables are counted through.  That no character has more layers than are looked
for, and that no second part is composed, are facts about the table, which are decided by counting
it out.

Main definitions:

* `Idna.IsPairTable` — tables of composed characters;
* `Idna.IsAtom` — characters without parts, `Idna.InOrder` — texts with their marks in order;
* `Idna.Composing.Stands` — how the composition stands.

Main results:

* `Idna.decomposeChar_join?` — what two characters make comes apart into what these come apart into;
* `Idna.reorder_past` — a mark can be taken past marks of lower classes;
* `Idna.reorder_decompose_compose` — **composing can be undone**;
* `Idna.normalize_normalize` — a composed form is its own composed form.
-/
import FirmwareCatalog.Proofs.Text.Utf8
import FirmwareCatalog.Proofs.Url.Idna.Rows
import FirmwareCatalog.Url.Idna.Normal
import Mathlib.Data.List.Chain

set_option relaxedAutoImplicit false
set_option autoImplicit false

namespace FirmwareCatalog.Idna

open Rows

/-! ### The table -/

def column (k : Nat) (rows : List (List Nat)) : List Nat := rows.filterMap (·[k]?)

def korean : List (List Nat) :=
  [[0x1100, 0x1112], [0x1161, 0x1175], [0x11A8, 0x11C2], [0xAC00, 0xD7A3]]

/-- The code points of more than the given number of layers, syllables beside them. -/
def layered (rows : List (List Nat)) : Nat → Nat
  | 0 => points (column 0 rows) ||| range 0xAC00 0xD7A3
  | n + 1 =>
    points (rows.filterMap fun row =>
      match row with
      | [whole, a, _] => if (layered rows n).testBit a then some whole else none
      | _ => none)

/-- A table of composed characters.  Every one of them is there once, none is of ASCII or Korean,
their second parts are neither that nor composed, and none has more than three layers. -/
structure IsPairTable (rows : List (List Nat)) : Prop where
  ascending : (column 0 rows).IsChain (· < ·)
  valid : ∀ row ∈ rows, ∀ n ∈ row, n < 0xD800 ∨ 0xDFFF < n ∧ n < 0x110000
  wholes : points (column 0 rows) &&& (range 0 0x7F ||| ranges korean) = 0
  firsts : (points (column 1 rows)).testBit '.'.toNat = false
  seconds : points (column 2 rows) &&&
    (range 0 0x7F ||| ranges korean ||| points (column 0 rows)) = 0
  layers : layered rows 3 = 0

instance (rows : List (List Nat)) : Decidable (IsPairTable rows) :=
  decidable_of_iff
    ((column 0 rows).IsChain (· < ·) ∧
      (∀ row ∈ rows, ∀ n ∈ row, n < 0xD800 ∨ 0xDFFF < n ∧ n < 0x110000) ∧
      points (column 0 rows) &&& (range 0 0x7F ||| ranges korean) = 0 ∧
      (points (column 1 rows)).testBit '.'.toNat = false ∧
      points (column 2 rows) &&&
        (range 0 0x7F ||| ranges korean ||| points (column 0 rows)) = 0 ∧
      layered rows 3 = 0)
    (by
      constructor
      · rintro ⟨h₁, h₂, h₃, h₄, h₅, h₆⟩
        exact ⟨h₁, h₂, h₃, h₄, h₅, h₆⟩
      · rintro ⟨h₁, h₂, h₃, h₄, h₅, h₆⟩
        exact ⟨h₁, h₂, h₃, h₄, h₅, h₆⟩)

/-- **The table of composed characters is one.** -/
theorem isPairTable_pairs : IsPairTable pairs := by
  apply Spelled.read (p := IsPairTable)
  case h =>
    dsimp only [pairLines]
    repeat' apply Spelled.cons
    exact Spelled.nil
  case hp => decide +kernel

/-- Nothing of ASCII is a mark. -/
theorem markClass_of_ascii {c : Char} (h : c.toNat < 0x80) : markClass c = 0 := by
  have hrows : ∀ row ∈ markClasses, 0x80 ≤ row.headD 0x80 := by
    apply Spelled.read (p := fun rows => ∀ row ∈ rows, 0x80 ≤ row.headD 0x80)
    case h =>
      dsimp only [markClassLines]
      repeat' apply Spelled.cons
      exact Spelled.nil
    case hp => decide +kernel
  have hnone : value? markClasses c = none := by
    rw [value?, List.findSome?_eq_none_iff]
    intro row hrow
    have hfirst := hrows row hrow
    split
    · rw [List.headD_cons] at hfirst
      have hnot : ¬ (_ ≤ c.toNat) := Nat.not_le.2 (Nat.lt_of_lt_of_le h hfirst)
      simp [hnot]
    · rfl
  rw [markClass, hnone]
  rfl

/-! ### Parts -/

/-- The character has no parts. -/
structure IsAtom (c : Char) : Prop where
  syllable : syllableParts? c = none
  table : parts? c = none

variable {a b c w : Char} {s t : List Char}

/-- The parts of a character stand beside it in the table. -/
theorem row_of_parts? (h : parts? c = some (a, b)) : [c.toNat, a.toNat, b.toNat] ∈ pairs := by
  obtain ⟨row, hrow, hval⟩ := List.exists_of_findSome?_eq_some h
  have hvalid := isPairTable_pairs.valid row hrow
  split at hval
  · split at hval
    · rename_i whole x y hwhole
      cases hval
      rw [Utf8.toNat_ofNat (hvalid x (by simp)), Utf8.toNat_ofNat (hvalid y (by simp)), ← hwhole]
      exact hrow
    · cases hval
  · cases hval

/-- A character stands beside its parts in the table. -/
theorem row_of_whole? (h : whole? a b = some w) : [w.toNat, a.toNat, b.toNat] ∈ pairs := by
  obtain ⟨row, hrow, hval⟩ := List.exists_of_findSome?_eq_some h
  have hvalid := isPairTable_pairs.valid row hrow
  split at hval
  · split at hval
    · rename_i whole x y hparts
      cases hval
      rw [Utf8.toNat_ofNat (hvalid whole (by simp)), ← hparts.1, ← hparts.2]
      exact hrow
    · cases hval
  · cases hval

theorem mem_column {k n : Nat} {row : List Nat} {rows : List (List Nat)} (hrow : row ∈ rows)
    (hn : row[k]? = some n) : n ∈ column k rows :=
  List.mem_filterMap.2 ⟨row, hrow, hn⟩

/-- In a table of composed characters a row is found by its first number. -/
theorem findSome?_of_ascending {n x y : Nat} {rows : List (List Nat)}
    (hrows : (column 0 rows).Pairwise (· < ·)) (hmem : [n, x, y] ∈ rows) :
    (rows.findSome? fun row =>
      match row with
      | [whole, a, b] => if whole = n then some (Char.ofNat a, Char.ofNat b) else none
      | _ => none) = some (Char.ofNat x, Char.ofNat y) := by
  induction rows with
  | nil => cases hmem
  | cons row rows ih =>
      rw [List.findSome?_cons]
      rcases List.mem_cons.1 hmem with rfl | hbelow
      · simp
      · have hn : n ∈ column 0 rows := mem_column hbelow rfl
        rcases row with _ | ⟨m, row⟩
        · exact ih hrows hbelow
        · obtain ⟨hlt, hrest⟩ := List.pairwise_cons.1 hrows
          have hne : m ≠ n := Nat.ne_of_lt (hlt n hn)
          rw [← ih hrest hbelow]
          split
          · rename_i hval
            split at hval
            · rename_i heq
              cases heq
              rw [if_neg hne] at hval
              cases hval
            · cases hval
          · rfl

/-- **A character is taken apart into what it is made of.** -/
theorem parts?_of_whole? (h : whole? a b = some w) : parts? w = some (a, b) := by
  have hascending := List.isChain_iff_pairwise.1 isPairTable_pairs.ascending
  have hfind := findSome?_of_ascending hascending (row_of_whole? h)
  rw [Char.ofNat_toNat, Char.ofNat_toNat] at hfind
  exact hfind

theorem testBit_of_row {n x y : Nat} (h : [n, x, y] ∈ pairs) :
    (range 0 0x7F ||| ranges korean).testBit n = false := by
  refine testBit_eq_false_of_disjoint ?_ ((testBit_points _ n).2 (mem_column (k := 0) h rfl))
  rw [Nat.and_comm]
  exact isPairTable_pairs.wholes

theorem testBit_second_of_row {n x y : Nat} (h : [n, x, y] ∈ pairs) :
    (range 0 0x7F ||| ranges korean ||| points (column 0 pairs)).testBit y = false := by
  refine testBit_eq_false_of_disjoint ?_ ((testBit_points _ y).2 (mem_column (k := 2) h rfl))
  rw [Nat.and_comm]
  exact isPairTable_pairs.seconds

theorem ascii_lt_of_row {n x y : Nat} (h : [n, x, y] ∈ pairs) : 0x7F < n := by
  have hbit := testBit_of_row h
  rw [Nat.testBit_or, testBit_range, Bool.or_eq_false_iff] at hbit
  simpa using hbit.1

theorem ascii_lt_second_of_row {n x y : Nat} (h : [n, x, y] ∈ pairs) : 0x7F < y := by
  have hbit := testBit_second_of_row h
  rw [Nat.testBit_or, Nat.testBit_or, testBit_range, Bool.or_eq_false_iff,
    Bool.or_eq_false_iff] at hbit
  simpa using hbit.1.1

/-! ### Characters of one part -/

theorem IsAtom.decomposeChar (h : IsAtom c) (n : Nat) : decomposeChar n c = [c] := by
  cases n with
  | zero => rfl
  | succ n =>
      unfold Idna.decomposeChar
      rw [h.syllable, h.table]

theorem syllableParts?_eq_none_iff :
    syllableParts? c = none ↔ ¬ (0xAC00 ≤ c.toNat ∧ c.toNat ≤ 0xD7A3) := by
  unfold syllableParts?
  dsimp only
  split
  · simp only [true_iff]
    omega
  · simp only [reduceCtorEq, false_iff]
    omega

theorem isAtom_of_ascii (h : c.toNat < 0x80) : IsAtom c := by
  refine ⟨syllableParts?_eq_none_iff.2 (by omega), ?_⟩
  by_contra hparts
  obtain ⟨⟨a, b⟩, hsome⟩ := Option.ne_none_iff_exists'.1 hparts
  have hlt := ascii_lt_of_row (row_of_parts? hsome)
  omega

theorem covers_korean {n : Nat} (h : 0x1100 ≤ n ∧ n ≤ 0x1112 ∨ 0x1161 ≤ n ∧ n ≤ 0x1175 ∨
    0x11A8 ≤ n ∧ n ≤ 0x11C2 ∨ 0xAC00 ≤ n ∧ n ≤ 0xD7A3) :
    (Char.ofNat n).toNat = n ∧ covers korean (Char.ofNat n) = true := by
  have hn : (Char.ofNat n).toNat = n := Utf8.toNat_ofNat (by omega)
  refine ⟨hn, ?_⟩
  simp only [covers, korean, List.any_cons, List.any_nil, hn, Bool.or_eq_true, Bool.and_eq_true,
    decide_eq_true_eq]
  omega

theorem isAtom_of_korean {n : Nat} (h : 0x1100 ≤ n ∧ n ≤ 0x1112 ∨ 0x1161 ≤ n ∧ n ≤ 0x1175 ∨
    0x11A8 ≤ n ∧ n ≤ 0x11C2) : IsAtom (Char.ofNat n) := by
  obtain ⟨hn, hcovers⟩ := covers_korean (n := n) (by omega)
  refine ⟨syllableParts?_eq_none_iff.2 (by omega), ?_⟩
  by_contra hparts
  obtain ⟨⟨a, b⟩, hsome⟩ := Option.ne_none_iff_exists'.1 hparts
  have hbit := testBit_of_row (row_of_parts? hsome)
  rw [Nat.testBit_or, testBit_ranges, hcovers, Bool.or_true] at hbit
  cases hbit

/-- Second parts have no parts. -/
theorem isAtom_second (h : parts? c = some (a, b)) : IsAtom b := by
  have hbit := testBit_second_of_row (row_of_parts? h)
  rw [Nat.testBit_or, Nat.testBit_or, testBit_ranges, Bool.or_eq_false_iff,
    Bool.or_eq_false_iff] at hbit
  obtain ⟨⟨-, hkorean⟩, hwhole⟩ := hbit
  constructor
  · rw [syllableParts?_eq_none_iff]
    intro hsyllable
    simp [covers, korean] at hkorean
    omega
  · by_contra hparts
    obtain ⟨⟨a', b'⟩, hsome⟩ := Option.ne_none_iff_exists'.1 hparts
    rw [(testBit_points _ _).2 (mem_column (row_of_parts? hsome) rfl)] at hwhole
    cases hwhole

/-- The parts of a syllable are an initial, a vowel and a final part. -/
theorem exists_of_mem_syllableParts? {cs : List Char} (h : syllableParts? c = some cs) {d : Char}
    (hd : d ∈ cs) : ∃ n, d = Char.ofNat n ∧ (0x1100 ≤ n ∧ n ≤ 0x1112 ∨ 0x1161 ≤ n ∧ n ≤ 0x1175 ∨
      0x11A8 ≤ n ∧ n ≤ 0x11C2) := by
  unfold syllableParts? at h
  dsimp only at h
  split at h
  · cases h
  · obtain rfl := Option.some.inj h
    split at hd
    · simp only [List.mem_cons, List.not_mem_nil, or_false] at hd
      rcases hd with hd | hd
      · exact ⟨_, hd, by omega⟩
      · exact ⟨_, hd, by omega⟩
    · simp only [List.cons_append, List.nil_append, List.mem_cons, List.not_mem_nil, or_false] at hd
      rcases hd with hd | hd | hd
      · exact ⟨_, hd, by omega⟩
      · exact ⟨_, hd, by omega⟩
      · exact ⟨_, hd, by omega⟩

theorem isAtom_of_syllableParts? {cs : List Char} (h : syllableParts? c = some cs) :
    ∀ d ∈ cs, IsAtom d := by
  intro d hd
  obtain ⟨n, rfl, hn⟩ := exists_of_mem_syllableParts? h hd
  exact isAtom_of_korean hn

/-- **Up to the layers that a character has, all its parts come apart.** -/
theorem decomposeChar_of_layered {k : Nat} (h : (layered pairs k).testBit c.toNat = false) :
    (∀ d ∈ decomposeChar k c, IsAtom d) ∧ decomposeChar (k + 1) c = decomposeChar k c := by
  induction k generalizing c with
  | zero =>
      have hatom : IsAtom c := by
        rw [layered, Nat.testBit_or, testBit_range, Bool.or_eq_false_iff] at h
        refine ⟨syllableParts?_eq_none_iff.2 (by simpa using h.2), ?_⟩
        by_contra hparts
        obtain ⟨⟨a, b⟩, hsome⟩ := Option.ne_none_iff_exists'.1 hparts
        rw [(testBit_points _ _).2 (mem_column (row_of_parts? hsome) rfl)] at h
        cases h.1
      rw [hatom.decomposeChar, hatom.decomposeChar]
      refine ⟨fun d hd => ?_, rfl⟩
      rw [List.mem_singleton.1 hd]
      exact hatom
  | succ k ih =>
      unfold decomposeChar
      split
      · rename_i hsyllable
        exact ⟨isAtom_of_syllableParts? hsyllable, rfl⟩
      · rename_i a b _ hparts
        -- the first part has a layer less
        have hfirst : (layered pairs k).testBit a.toNat = false := by
          by_contra hbit
          rw [Bool.not_eq_false] at hbit
          rw [layered, Bool.eq_false_iff] at h
          refine h ((testBit_points _ _).2 (List.mem_filterMap.2 ⟨_, row_of_parts? hparts, ?_⟩))
          exact if_pos hbit
        obtain ⟨hatoms, hsame⟩ := ih hfirst
        rw [hsame]
        refine ⟨fun d hd => ?_, rfl⟩
        rcases List.mem_append.1 hd with hd | hd
        · exact hatoms d hd
        · rw [List.mem_singleton.1 hd]
          exact isAtom_second hparts
      · rename_i hsyllable hparts
        refine ⟨fun d hd => ?_, rfl⟩
        rw [List.mem_singleton.1 hd]
        exact ⟨hsyllable, hparts⟩

theorem decomposeChar_three (c : Char) :
    (∀ d ∈ decomposeChar 3 c, IsAtom d) ∧ decomposeChar 4 c = decomposeChar 3 c := by
  refine decomposeChar_of_layered ?_
  rw [isPairTable_pairs.layers]
  exact Nat.zero_testBit _

theorem isAtom_of_mem_decompose : ∀ c ∈ decompose s, IsAtom c := by
  intro c hc
  obtain ⟨d, -, hd⟩ := List.mem_flatMap.1 hc
  rw [(decomposeChar_three d).2] at hd
  exact (decomposeChar_three d).1 c hd

theorem decompose_of_isAtom (h : ∀ c ∈ s, IsAtom c) : decompose s = s := by
  induction s with
  | nil => rfl
  | cons c s ih =>
      have hrest := ih fun d hd => h d (List.mem_cons_of_mem c hd)
      rw [decompose, List.flatMap_cons, (h c List.mem_cons_self).decomposeChar, ← decompose, hrest]
      rfl

theorem decompose_append (s t : List Char) : decompose (s ++ t) = decompose s ++ decompose t :=
  List.flatMap_append

/-- The parts of the syllable with the given numbers of its parts. -/
theorem decomposeChar_ofNat {i v f : Nat} (hi : i < 19) (hv : v < 21) (hf : f < 28) :
    decomposeChar 4 (Char.ofNat (0xAC00 + (i * 21 + v) * 28 + f)) =
      [Char.ofNat (0x1100 + i), Char.ofNat (0x1161 + v)] ++
        if f = 0 then [] else [Char.ofNat (0x11A7 + f)] := by
  have hcode : (Char.ofNat (0xAC00 + (i * 21 + v) * 28 + f)).toNat =
      0xAC00 + (i * 21 + v) * 28 + f := Utf8.toNat_ofNat (by omega)
  have hin : ¬(0xAC00 + (i * 21 + v) * 28 + f < 0xAC00 ∨
      11172 ≤ 0xAC00 + (i * 21 + v) * 28 + f - 0xAC00) := by omega
  have hinitial : (0xAC00 + (i * 21 + v) * 28 + f - 0xAC00) / 588 = i := by omega
  have hvowel : (0xAC00 + (i * 21 + v) * 28 + f - 0xAC00) % 588 / 28 = v := by omega
  have hfinal : (0xAC00 + (i * 21 + v) * 28 + f - 0xAC00) % 28 = f := by omega
  have hparts : syllableParts? (Char.ofNat (0xAC00 + (i * 21 + v) * 28 + f)) =
      some ([Char.ofNat (0x1100 + i), Char.ofNat (0x1161 + v)] ++
        if f = 0 then [] else [Char.ofNat (0x11A7 + f)]) := by
    unfold syllableParts?
    simp only [hcode, if_neg hin, hinitial, hvowel, hfinal]
    split
    · rfl
    · rfl
  unfold decomposeChar
  rw [hparts]

/-- **A syllable comes apart into what it is made of.** -/
theorem decomposeChar_syllable? (h : syllable? a b = some w) :
    decomposeChar 4 w = decomposeChar 4 a ++ [b] := by
  unfold syllable? at h
  dsimp only at h
  split at h
  case isTrue hopen =>
    obtain ⟨hlow, hi, hlow', hv⟩ := hopen
    have ha : IsAtom a := by
      rw [← Char.ofNat_toNat a]
      exact isAtom_of_korean (by omega)
    have hinitial : 0x1100 + (a.toNat - 0x1100) = a.toNat := by omega
    have hvowel : 0x1161 + (b.toNat - 0x1161) = b.toNat := by omega
    have hjoined := decomposeChar_ofNat hi hv (f := 0) (by omega)
    rw [hinitial, hvowel, Char.ofNat_toNat, Char.ofNat_toNat] at hjoined
    rw [Nat.add_zero, if_pos rfl, List.append_nil] at hjoined
    rw [← Option.some.inj h, ha.decomposeChar]
    exact hjoined
  case isFalse =>
    split at h
    case isTrue hclosed =>
      obtain ⟨hlow, hhigh, hopen, hlow', hf⟩ := hclosed
      -- the numbers of the initial and the vowel of the open syllable
      obtain ⟨q, hq⟩ : ∃ q, a.toNat = 0xAC00 + (q / 21 * 21 + q % 21) * 28 :=
        ⟨(a.toNat - 0xAC00) / 28, by omega⟩
      have hi : q / 21 < 19 := by omega
      have hv : q % 21 < 21 := by omega
      have hfinal : 0x11A7 + (b.toNat - 0x11A7) = b.toNat := by omega
      have hne : b.toNat - 0x11A7 ≠ 0 := by omega
      have hwhole := decomposeChar_ofNat hi hv hf
      have hpart := decomposeChar_ofNat hi hv (f := 0) (by omega)
      rw [← hq, hfinal, if_neg hne, Char.ofNat_toNat] at hwhole
      rw [Nat.add_zero, ← hq, Char.ofNat_toNat, if_pos rfl, List.append_nil] at hpart
      rw [← Option.some.inj h, hpart]
      exact hwhole
    case isFalse => cases h

/-- **What two characters make comes apart into what these come apart into.** -/
theorem decomposeChar_join? (h : join? a b = some w) :
    decomposeChar 4 w = decomposeChar 4 a ++ [b] := by
  rw [join?] at h
  split at h
  · rename_i hsyllable
    obtain rfl := Option.some.inj h
    exact decomposeChar_syllable? hsyllable
  · have hparts := parts?_of_whole? h
    have hnone : syllableParts? w = none := by
      rw [syllableParts?_eq_none_iff]
      intro hrange
      have hbit := testBit_of_row (row_of_parts? hparts)
      rw [Nat.testBit_or, testBit_ranges, Bool.or_eq_false_iff] at hbit
      simp [covers, korean] at hbit
      omega
    rw [(decomposeChar_three a).2]
    conv_lhs => unfold decomposeChar
    rw [hnone, hparts]

/-! ### Order of marks -/

/-- No mark stands behind one of a higher class. -/
def InOrder (s : List Char) : Prop :=
  s.IsChain fun a b => markClass b = 0 ∨ markClass a ≤ markClass b

theorem placeMark_of_inOrder (h : InOrder (c :: s)) : placeMark c s = c :: s := by
  cases s with
  | nil => rfl
  | cons d s =>
      have hhead := (List.isChain_cons_cons.1 h).1
      rw [placeMark, if_neg]
      omega

theorem reorder_of_inOrder (h : InOrder s) : reorder s = s := by
  induction s with
  | nil => rfl
  | cons c s ih =>
      rw [reorder, List.foldr_cons, ← reorder, ih h.tail]
      exact placeMark_of_inOrder h

theorem InOrder.of_mem_head? (h : InOrder (c :: s)) :
    ∀ d ∈ s.head?, markClass d = 0 ∨ markClass c ≤ markClass d := by
  intro d hd
  cases s with
  | nil => cases hd
  | cons e s =>
      cases hd
      exact (List.isChain_cons_cons.1 h).1

/-- A character is put into an ordered text so that it stays in order. -/
theorem InOrder.placeMark (h : InOrder s) (c : Char) : InOrder (placeMark c s) := by
  induction s with
  | nil => exact List.isChain_singleton c
  | cons d s ih =>
      rw [Idna.placeMark]
      split
      · rename_i hlower
        have hrest := ih h.tail
        cases s with
        | nil => exact List.isChain_pair.2 (Or.inr (Nat.le_of_lt hlower.2))
        | cons e s =>
            have hhead := (List.isChain_cons_cons.1 h).1
            rw [Idna.placeMark] at hrest ⊢
            split
            · rename_i hlower'
              rw [if_pos hlower'] at hrest
              exact List.isChain_cons_cons.2 ⟨hhead, hrest⟩
            · rename_i hlower'
              rw [if_neg hlower'] at hrest
              exact List.isChain_cons_cons.2 ⟨Or.inr (Nat.le_of_lt hlower.2), hrest⟩
      · rename_i hlower
        refine List.isChain_cons_cons.2 ⟨?_, h⟩
        omega

/-- **What is put in order is in order.** -/
theorem inOrder_reorder (s : List Char) : InOrder (reorder s) := by
  induction s with
  | nil => exact List.IsChain.nil
  | cons c s ih => exact ih.placeMark c

theorem mem_placeMark {d : Char} (h : d ∈ placeMark c s) : d = c ∨ d ∈ s := by
  induction s with
  | nil => exact Or.inl (List.mem_singleton.1 h)
  | cons e s ih =>
      rw [placeMark] at h
      split at h
      · rcases List.mem_cons.1 h with rfl | h
        · exact Or.inr List.mem_cons_self
        · exact (ih h).imp_right (List.mem_cons_of_mem e)
      · exact List.mem_cons.1 h

theorem mem_of_mem_reorder (h : c ∈ reorder s) : c ∈ s := by
  induction s with
  | nil => exact h
  | cons d s ih =>
      rcases mem_placeMark h with rfl | h
      · exact List.mem_cons_self
      · exact List.mem_cons_of_mem d (ih h)

/-- Two marks of different classes can be put into a text in either order. -/
theorem placeMark_comm (ha : markClass a ≠ 0) (hab : markClass a < markClass b) (s : List Char) :
    placeMark b (placeMark a s) = placeMark a (placeMark b s) := by
  have hnot : ¬ (markClass b ≠ 0 ∧ markClass b < markClass a) := by omega
  induction s with
  | nil => simp only [placeMark, if_pos (And.intro ha hab), if_neg hnot]
  | cons d s ih =>
      by_cases hlower : markClass d ≠ 0 ∧ markClass d < markClass a
      · have hlower' : markClass d ≠ 0 ∧ markClass d < markClass b := ⟨hlower.1, by omega⟩
        simp only [placeMark, if_pos hlower, if_pos hlower', ih]
      · by_cases hlower' : markClass d ≠ 0 ∧ markClass d < markClass b
        · simp only [placeMark, if_neg hlower, if_pos hlower', if_pos (And.intro ha hab)]
        · simp only [placeMark, if_neg hlower, if_neg hlower', if_pos (And.intro ha hab),
            if_neg hnot]

theorem reorder_append (s t : List Char) :
    reorder (s ++ t) = s.foldr placeMark (reorder t) :=
  List.foldr_append

/-- **A mark can be taken past marks of lower classes.** -/
theorem reorder_past {ms : List Char} (h : ∀ m ∈ ms, markClass m ≠ 0 ∧ markClass m < markClass c)
    (r : List Char) : reorder (c :: ms ++ r) = reorder (ms ++ c :: r) := by
  induction ms with
  | nil => rfl
  | cons m ms ih =>
      obtain ⟨hm, hlower⟩ := h m List.mem_cons_self
      have hrest := ih fun d hd => h d (List.mem_cons_of_mem m hd)
      calc placeMark c (placeMark m (reorder (ms ++ r)))
          = placeMark m (placeMark c (reorder (ms ++ r))) := placeMark_comm hm hlower _
        _ = placeMark m (reorder (ms ++ c :: r)) := congrArg (placeMark m) hrest

/-! ### Composition -/

/-- How the composition stands, with the text that is read and the one ahead.  Taken apart and put
in order, its text is what was read, whatever comes next; its marks have no parts, and the last
class is the highest among them. -/
structure Composing.Stands (st : Composing) (passed ahead : List Char) : Prop where
  same : ∀ r, reorder (decompose st.text ++ r) = reorder (passed ++ r)
  atoms : ∀ m ∈ st.marks, IsAtom m
  classes : ∀ m ∈ st.marks, markClass m ≠ 0 ∧ markClass m ≤ st.last
  next : st.marks = [] ∨ ∀ c ∈ ahead.head?, markClass c = 0 ∨ st.last ≤ markClass c

/-- **What one more character does**: it joins the letter, which it may if no mark stands between
them or the marks are all of lower classes, or it begins a part of its own, or it is a mark. -/
theorem Composing.add_cases (st : Composing) (c : Char) :
    (∃ letter whole, st.letter = some letter ∧ join? letter c = some whole ∧
      (st.marks = [] ∨ st.last < markClass c) ∧ st.add c = { st with letter := some whole }) ∨
    (markClass c = 0 ∧ st.add c = ⟨st.text, some c, [], 0⟩) ∨
    (markClass c ≠ 0 ∧ st.add c = { st with marks := st.marks ++ [c], last := markClass c }) := by
  rw [Composing.add]
  split
  case h_1 whole hjoined =>
    split at hjoined
    case isFalse => cases hjoined
    case isTrue hfree =>
      obtain ⟨letter, hletter, hjoin⟩ := Option.bind_eq_some_iff.1 hjoined
      rw [Bool.or_eq_true, List.isEmpty_iff, decide_eq_true_eq] at hfree
      exact Or.inl ⟨letter, whole, hletter, hjoin, hfree, rfl⟩
  case h_2 =>
    split
    case isTrue hclass => exact Or.inr (Or.inl ⟨hclass, rfl⟩)
    case isFalse hclass => exact Or.inr (Or.inr ⟨hclass, rfl⟩)

theorem Composing.decompose_text {st : Composing} (hmarks : ∀ m ∈ st.marks, IsAtom m)
    (hletter : st.letter = some a) :
    decompose st.text = decompose st.finished ++ decomposeChar 4 a ++ st.marks := by
  rw [Composing.text, hletter, decompose_append, decompose_append, decompose_of_isAtom hmarks]
  simp [decompose]

namespace Composing.Stands

variable {st : Composing} {passed ahead : List Char}

theorem same_append (h : st.Stands passed (c :: ahead)) (hc : IsAtom c) (r : List Char) :
    reorder (decompose (st.text ++ [c]) ++ r) = reorder (passed ++ [c] ++ r) := by
  have hlast : decompose [c] = [c] :=
    decompose_of_isAtom fun d hd => (List.mem_singleton.1 hd).symm ▸ hc
  rw [decompose_append, hlast, List.append_assoc, List.append_assoc]
  exact h.same ([c] ++ r)

/-- **A character that joins the letter is taken past the marks**, which are all of lower classes. -/
theorem joined (h : st.Stands passed (c :: ahead)) (horder : InOrder (c :: ahead))
    (hletter : st.letter = some a) (hjoin : join? a c = some w)
    (hfree : st.marks = [] ∨ st.last < markClass c) :
    Stands { st with letter := some w } (passed ++ [c]) ahead := by
  have hmarks : ∀ m ∈ st.marks, markClass m ≠ 0 ∧ markClass m < markClass c := by
    intro m hm
    obtain ⟨hmark, hle⟩ := h.classes m hm
    rcases hfree with hnil | hlower
    · rw [hnil] at hm
      cases hm
    · exact ⟨hmark, Nat.lt_of_le_of_lt hle hlower⟩
  refine ⟨fun r => ?_, h.atoms, h.classes, ?_⟩
  · have hapart : decompose st.text = decompose st.finished ++ decomposeChar 4 a ++ st.marks :=
      decompose_text h.atoms hletter
    have hapart' : decompose (text { st with letter := some w }) =
        decompose st.finished ++ decomposeChar 4 a ++ c :: st.marks := by
      have htext : decompose (text { st with letter := some w }) =
          decompose st.finished ++ decomposeChar 4 w ++ st.marks := decompose_text h.atoms rfl
      rw [htext, decomposeChar_join? hjoin]
      simp
    calc reorder (decompose (text { st with letter := some w }) ++ r)
        = (decompose st.finished ++ decomposeChar 4 a).foldr placeMark
            (reorder (c :: st.marks ++ r)) := by
          rw [hapart', List.append_assoc, reorder_append]
      _ = (decompose st.finished ++ decomposeChar 4 a).foldr placeMark
            (reorder (st.marks ++ c :: r)) := by rw [reorder_past hmarks]
      _ = reorder (decompose st.text ++ c :: r) := by
          rw [hapart, List.append_assoc _ st.marks, ← reorder_append]
      _ = reorder (passed ++ [c] ++ r) := by
          rw [h.same, List.append_assoc, List.singleton_append]
  · refine hfree.imp_right fun hlower d hd => (horder.of_mem_head? d hd).imp_right ?_
    exact Nat.le_trans (Nat.le_of_lt hlower)

theorem begun (h : st.Stands passed (c :: ahead)) (hc : IsAtom c) :
    Stands ⟨st.text, some c, [], 0⟩ (passed ++ [c]) ahead where
  same := by simpa [text] using h.same_append hc
  atoms := List.forall_mem_nil _
  classes := List.forall_mem_nil _
  next := Or.inl rfl

/-- A mark is the last one, and of the highest class. -/
theorem marked (h : st.Stands passed (c :: ahead)) (hc : IsAtom c) (horder : InOrder (c :: ahead))
    (hclass : markClass c ≠ 0) :
    Stands { st with marks := st.marks ++ [c], last := markClass c } (passed ++ [c]) ahead where
  same := by simpa [text] using h.same_append hc
  atoms := by
    intro m hm
    rcases List.mem_append.1 hm with hm | hm
    · exact h.atoms m hm
    · rw [List.mem_singleton.1 hm]
      exact hc
  classes := by
    intro m hm
    rcases List.mem_append.1 hm with hm | hm
    · refine ⟨(h.classes m hm).1, Nat.le_trans (h.classes m hm).2 ?_⟩
      rcases h.next with hnil | hnext
      · rw [hnil] at hm
        cases hm
      · exact (hnext c rfl).resolve_left hclass
    · rw [List.mem_singleton.1 hm]
      exact ⟨hclass, Nat.le_refl _⟩
  next := Or.inr horder.of_mem_head?

/-- **What a character of a text that is apart and in order changes.** -/
theorem add (h : st.Stands passed (c :: ahead)) (hc : IsAtom c) (horder : InOrder (c :: ahead)) :
    (st.add c).Stands (passed ++ [c]) ahead := by
  rcases st.add_cases c with ⟨letter, whole, hletter, hjoin, hfree, heq⟩ | ⟨-, heq⟩ | ⟨hclass, heq⟩
  · rw [heq]
    exact h.joined horder hletter hjoin hfree
  · rw [heq]
    exact h.begun hc
  · rw [heq]
    exact h.marked hc horder hclass

end Composing.Stands

/-- A whole text that is apart and in order. -/
theorem Composing.Stands.foldl {ahead : List Char} {st : Composing} {passed : List Char}
    (h : st.Stands passed ahead) (hatoms : ∀ c ∈ ahead, IsAtom c) (horder : InOrder ahead) :
    (ahead.foldl Composing.add st).Stands (passed ++ ahead) [] := by
  induction ahead generalizing st passed with
  | nil =>
      rw [List.append_nil]
      exact h
  | cons c ahead ih =>
      have hstep := h.add (hatoms c List.mem_cons_self) horder
      have hrest := ih hstep (fun d hd => hatoms d (List.mem_cons_of_mem c hd)) horder.tail
      rw [List.append_assoc, List.singleton_append] at hrest
      exact hrest

/-- **Composing can be undone**: taken apart and put in order, a composed text is what it was
composed from. -/
theorem reorder_decompose_compose (hatoms : ∀ c ∈ s, IsAtom c) (horder : InOrder s) :
    reorder (decompose (compose s)) = s := by
  have hstart : (⟨[], none, [], 0⟩ : Composing).Stands [] s := by
    refine ⟨fun r => rfl, ?_, ?_, Or.inl rfl⟩
    · intro m hm
      cases hm
    · intro m hm
      cases hm
  have hend := (hstart.foldl hatoms horder).same []
  rw [List.append_nil, List.append_nil, List.nil_append, reorder_of_inOrder horder] at hend
  exact hend

/-- **A composed form is its own composed form.** -/
theorem normalize_normalize (s : List Char) : normalize (normalize s) = normalize s := by
  have hundo : reorder (decompose (compose (reorder (decompose s)))) = reorder (decompose s) :=
    reorder_decompose_compose
      (fun c hc => isAtom_of_mem_decompose c (mem_of_mem_reorder hc)) (inOrder_reorder _)
  rw [normalize, normalize, hundo]

end FirmwareCatalog.Idna
