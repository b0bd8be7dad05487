/-
**The mapping is done after one step.**

A character is refused, dropped, shifted or replaced, or it stands for itself.  Whatever is shifted
or replaced becomes characters that stand for themselves; so do letters, digits, hyphen and dot, and
everything Korean; and a composed character stands for itself exactly if both of its parts do.  So
neither mapping a text once more nor composing it brings back anything that would have to be mapped.

These are statements about a few thousand rows.  The characters that do not stand for themselves are
one set of code points, so that each statement says that two sets are disjoint, or where some of the
bits of a set are; that is decided by counting it out.

Main definitions:

* `Idna.IsMapping` — tables of a mapping that is done after one step;
* `Idna.IsUnchanged` — characters in none of the tables.

Main results:

* `Idna.isMapping_tables` — **the tables make such a mapping**;
* `Idna.isKept_iff` — the characters that stand for themselves are those in none of the tables;
* `Idna.isKept_of_mem_mapChar?` — **what is mapped to stands for itself**;
* `Idna.isClosed_isKept` — composing leaves characters that stand for themselves.
-/
import FirmwareCatalog.Proofs.Url.Idna.Labels
import FirmwareCatalog.Url.Idna.Mapping

set_option relaxedAutoImplicit false
set_option autoImplicit false

namespace FirmwareCatalog.Idna

open Rows

/-! ### The tables -/

/-- The single characters that rows of ranges with steps stand for, each with its target. -/
def singles (rows : List (List Nat)) : List (List Nat) :=
  rows.flatMap fun row =>
    match row with
    | [first, last, step, target] =>
      ((List.range (last + 1 - first)).filter (· % step == 0)).map fun k =>
        [first + k, first + k, target + k]
    | _ => []

def changed (refused vanishing shifted expanded : List (List Nat)) : Nat :=
  ranges refused ||| ranges vanishing ||| ranges (singles shifted) ||| ranges expanded

def targets (rows : List (List Nat)) : List Nat := rows.flatMap (·.drop 2)

def plain : List Char := "abcdefghijklmnopqrstuvwxyz0123456789-.".toList

/-- A mapping that is done after one step.  What is mapped to stands for itself, as does what is
Korean, and a composed character does exactly if both of its parts do. -/
structure IsMapping (refused vanishing shifted expanded composed : List (List Nat)) : Prop where
  settled : changed refused vanishing shifted expanded &&&
    points (0 :: targets (singles shifted) ++ targets expanded ++ plain.map Char.toNat) = 0
  korean : changed refused vanishing shifted expanded &&& ranges korean = 0
  halves : ∀ row ∈ composed, (changed refused vanishing shifted expanded).testBit (row.headD 0) =
    row.tail.any fun n => (changed refused vanishing shifted expanded).testBit n

instance (r v s e p : List (List Nat)) : Decidable (IsMapping r v s e p) :=
  decidable_of_iff
    (changed r v s e &&&
        points (0 :: targets (singles s) ++ targets e ++ plain.map Char.toNat) = 0 ∧
      changed r v s e &&& ranges korean = 0 ∧
      ∀ row ∈ p, (changed r v s e).testBit (row.headD 0) =
        row.tail.any fun n => (changed r v s e).testBit n)
    (by
      constructor
      · rintro ⟨h₁, h₂, h₃⟩
        exact ⟨h₁, h₂, h₃⟩
      · rintro ⟨h₁, h₂, h₃⟩
        exact ⟨h₁, h₂, h₃⟩)

/-- **The tables make such a mapping.** -/
theorem isMapping_tables : IsMapping refused vanishing shifted expanded pairs := by
  apply Spelled.read (p := fun r => IsMapping r vanishing shifted expanded pairs)
  case h =>
    dsimp only [refusedLines]
    repeat' apply Spelled.cons
    exact Spelled.nil
  apply Spelled.read (p := fun v => IsMapping _ v shifted expanded pairs)
  case h =>
    dsimp only [vanishingLines]
    repeat' apply Spelled.cons
    exact Spelled.nil
  apply Spelled.read (p := fun s => IsMapping _ _ s expanded pairs)
  case h =>
    dsimp only [shiftedLines]
    repeat' apply Spelled.cons
    exact Spelled.nil
  apply Spelled.read (p := fun e => IsMapping _ _ _ e pairs)
  case h =>
    dsimp only [expandedLines]
    repeat' apply Spelled.cons
    exact Spelled.nil
  apply Spelled.read (p := fun p => IsMapping _ _ _ _ p)
  case h =>
    dsimp only [pairLines]
    repeat' apply Spelled.cons
    exact Spelled.nil
  decide +kernel

/-! ### Characters in none of the tables -/

section Tables

variable {refused vanishing shifted expanded composed : List (List Nat)} {c : Char}

/-- No row covers the character. -/
structure IsFree (refused vanishing shifted expanded : List (List Nat)) (c : Char) : Prop where
  refused : covers refused c = false
  vanishing : covers vanishing c = false
  shifted : covers (singles shifted) c = false
  expanded : covers expanded c = false

theorem isFree_iff : IsFree refused vanishing shifted expanded c ↔
    (changed refused vanishing shifted expanded).testBit c.toNat = false := by
  simp only [changed, Nat.testBit_or, testBit_ranges, Bool.or_eq_false_iff]
  constructor
  · rintro ⟨h₁, h₂, h₃, h₄⟩
    exact ⟨⟨⟨h₁, h₂⟩, h₃⟩, h₄⟩
  · rintro ⟨⟨⟨h₁, h₂⟩, h₃⟩, h₄⟩
    exact ⟨h₁, h₂, h₃, h₄⟩

theorem toNat_ofNat_cases (n : Nat) : (Char.ofNat n).toNat = n ∨ (Char.ofNat n).toNat = 0 := by
  by_cases h : n < 0xD800 ∨ 0xDFFF < n ∧ n < 0x110000
  · exact Or.inl (Utf8.toNat_ofNat h)
  · right
    rw [Char.ofNat, dif_neg h]
    rfl

namespace IsMapping

variable (h : IsMapping refused vanishing shifted expanded composed)

include h

theorem isFree_target {n : Nat} (hn : n ∈ targets (singles shifted) ++ targets expanded) :
    IsFree refused vanishing shifted expanded (Char.ofNat n) := by
  refine isFree_iff.2 (testBit_eq_false_of_disjoint h.settled ((testBit_points _ _).2 ?_))
  rcases toNat_ofNat_cases n with hcode | hcode
  · rw [hcode]
    exact List.mem_append_left _ (List.mem_cons_of_mem 0 hn)
  · rw [hcode]
    exact List.mem_cons_self

theorem isFree_plain (hc : c ∈ plain) : IsFree refused vanishing shifted expanded c := by
  refine isFree_iff.2 (testBit_eq_false_of_disjoint h.settled ((testBit_points _ _).2 ?_))
  exact List.mem_append_right _ (List.mem_map_of_mem hc)

theorem isFree_korean (hc : covers Idna.korean c = true) :
    IsFree refused vanishing shifted expanded c := by
  refine isFree_iff.2 (testBit_eq_false_of_disjoint h.korean ?_)
  rw [testBit_ranges]
  exact hc

theorem isFree_whole_iff {a b : Char} (hrow : [c.toNat, a.toNat, b.toNat] ∈ composed) :
    IsFree refused vanishing shifted expanded c ↔
      IsFree refused vanishing shifted expanded a ∧
        IsFree refused vanishing shifted expanded b := by
  have hhalves := h.halves _ hrow
  simp only [List.headD_cons, List.tail_cons, List.any_cons, List.any_nil, Bool.or_false] at hhalves
  rw [isFree_iff, isFree_iff, isFree_iff, hhalves, Bool.or_eq_false_iff]

end IsMapping

/-- A single character of a row of ranges with steps. -/
theorem mem_singles_iff {row : List Nat} : row ∈ singles shifted ↔
    ∃ first last step target k, [first, last, step, target] ∈ shifted ∧ k < last + 1 - first ∧
      k % step = 0 ∧ row = [first + k, first + k, target + k] := by
  constructor
  · intro h
    obtain ⟨source, hsource, hrow⟩ := List.mem_flatMap.1 h
    split at hrow
    · rename_i first last step target
      obtain ⟨k, hk, rfl⟩ := List.mem_map.1 hrow
      rw [List.mem_filter, List.mem_range, beq_iff_eq] at hk
      exact ⟨first, last, step, target, k, hsource, hk.1, hk.2, rfl⟩
    · cases hrow
  · rintro ⟨first, last, step, target, k, hsource, hk, hstep, rfl⟩
    refine List.mem_flatMap.2 ⟨_, hsource, List.mem_map.2 ⟨k, ?_, rfl⟩⟩
    rw [List.mem_filter, List.mem_range, beq_iff_eq]
    exact ⟨hk, hstep⟩

/-- **What rows of ranges with steps map** are the single characters, each to its target. -/
theorem shift?_cases (shifted : List (List Nat)) (c : Char) :
    (covers (singles shifted) c = false ∧ shifted.findSome? (shift? c) = none) ∨
    covers (singles shifted) c = true ∧ ∃ n ∈ targets (singles shifted),
      shifted.findSome? (shift? c) = some [Char.ofNat n] := by
  -- a row of steps covers a character exactly as the single rows do that it stands for
  have hcovered {first last step target : Nat} (hrow : [first, last, step, target] ∈ shifted)
      (hin : (first ≤ c.toNat && c.toNat ≤ last && (c.toNat - first) % step == 0) = true) :
      [c.toNat, c.toNat, target + (c.toNat - first)] ∈ singles shifted := by
    simp only [Bool.and_eq_true, decide_eq_true_eq, beq_iff_eq] at hin
    have hsum : first + (c.toNat - first) = c.toNat := by omega
    exact mem_singles_iff.2 ⟨first, last, step, target, c.toNat - first, hrow, by omega, hin.2,
      by rw [hsum]⟩
  cases hfind : shifted.findSome? (shift? c) with
  | some text =>
      obtain ⟨row, hrow, hval⟩ := List.exists_of_findSome?_eq_some hfind
      unfold shift? at hval
      split at hval
      · split at hval
        · rename_i first last step target hin
          have hmem := hcovered hrow hin
          refine Or.inr ⟨List.any_eq_true.2 ⟨_, hmem, by simp⟩, _,
            List.mem_flatMap.2 ⟨_, hmem, List.mem_singleton.2 rfl⟩, hval.symm⟩
        · cases hval
      · cases hval
  | none =>
      refine Or.inl ⟨Bool.eq_false_iff.2 fun hcovers => ?_, rfl⟩
      obtain ⟨row, hrow, hin⟩ := List.any_eq_true.1 hcovers
      obtain ⟨first, last, step, target, k, hsource, hk, hstep, rfl⟩ := mem_singles_iff.1 hrow
      have hcode : c.toNat = first + k := by
        simp only [Bool.and_eq_true, decide_eq_true_eq] at hin
        omega
      have hnone := List.findSome?_eq_none_iff.1 hfind _ hsource
      have hplace : (first ≤ c.toNat && c.toNat ≤ last &&
          (c.toNat - first) % step == 0) = true := by
        rw [hcode, Nat.add_sub_cancel_left, hstep]
        simp
        omega
      rw [shift?, if_pos hplace] at hnone
      cases hnone

/-- **What rows of ranges map** are the characters that they cover, to their targets. -/
theorem expand?_cases (expanded : List (List Nat)) (c : Char) :
    (covers expanded c = false ∧ expanded.findSome? (expand? c) = none) ∨
    covers expanded c = true ∧ ∃ ns : List Nat, (∀ n ∈ ns, n ∈ targets expanded) ∧
      expanded.findSome? (expand? c) = some (ns.map Char.ofNat) := by
  cases hfind : expanded.findSome? (expand? c) with
  | some text =>
      obtain ⟨row, hrow, hval⟩ := List.exists_of_findSome?_eq_some hfind
      unfold expand? at hval
      split at hval
      · split at hval
        · rename_i first last ns hin
          exact Or.inr ⟨List.any_eq_true.2 ⟨_, hrow, hin⟩, ns,
            fun n hn => List.mem_flatMap.2 ⟨_, hrow, hn⟩, hval.symm⟩
        · cases hval
      · cases hval
  | none =>
      refine Or.inl ⟨Bool.eq_false_iff.2 fun hcovers => ?_, rfl⟩
      obtain ⟨row, hrow, hin⟩ := List.any_eq_true.1 hcovers
      have hnone := List.findSome?_eq_none_iff.1 hfind row hrow
      split at hin
      · rw [expand?, if_pos hin] at hnone
        cases hnone
      · cases hin

end Tables

/-! ### The mapping -/

variable {c d : Char} {t : List Char}

/-- The character is in none of the tables of the mapping. -/
def IsUnchanged (c : Char) : Prop := IsFree refused vanishing shifted expanded c

/-- A character in no table stands for itself. -/
theorem mapChar?_of_isUnchanged (h : IsUnchanged c) : mapChar? c = some [c] := by
  have hshift : shifted.findSome? (shift? c) = none := by
    rcases shift?_cases shifted c with ⟨-, hnone⟩ | ⟨hcovers, -⟩
    · exact hnone
    · rw [h.shifted] at hcovers
      cases hcovers
  have hexpand : expanded.findSome? (expand? c) = none := by
    rcases expand?_cases expanded c with ⟨-, hnone⟩ | ⟨hcovers, -⟩
    · exact hnone
    · rw [h.expanded] at hcovers
      cases hcovers
  rw [mapChar?, h.refused, h.vanishing, hshift, hexpand]
  rfl

/-- What is mapped to is in no table. -/
theorem isUnchanged_of_mem_mapChar? (h : mapChar? c = some t) (hd : d ∈ t) : IsUnchanged d := by
  rw [mapChar?] at h
  split at h
  case isTrue => cases h
  case isFalse hrefused =>
    split at h
    case isTrue =>
      obtain rfl := Option.some.inj h
      cases hd
    case isFalse hvanishing =>
      rcases shift?_cases shifted c with ⟨hshifted, hnone⟩ | ⟨-, n, hn, hsome⟩
      · rw [hnone] at h
        dsimp only at h
        rcases expand?_cases expanded c with
          ⟨hexpanded, hnone⟩ | ⟨-, ns, hns, hsome⟩
        · rw [hnone, Option.getD_none] at h
          obtain rfl := Option.some.inj h
          rw [List.mem_singleton.1 hd]
          exact ⟨Bool.eq_false_iff.2 hrefused, Bool.eq_false_iff.2 hvanishing, hshifted, hexpanded⟩
        · rw [hsome, Option.getD_some] at h
          obtain rfl := Option.some.inj h
          obtain ⟨n, hn, rfl⟩ := List.mem_map.1 hd
          exact isMapping_tables.isFree_target (List.mem_append_right _ (hns n hn))
      · rw [hsome] at h
        obtain rfl := Option.some.inj h
        rw [List.mem_singleton.1 hd]
        exact isMapping_tables.isFree_target (List.mem_append_left _ hn)

/-- **The characters that stand for themselves** are those in none of the tables. -/
theorem isKept_iff : isKept c = true ↔ IsUnchanged c := by
  rw [isKept, beq_iff_eq]
  constructor
  · intro h
    exact isUnchanged_of_mem_mapChar? h (List.mem_singleton.2 rfl)
  · exact mapChar?_of_isUnchanged

/-- **What is mapped to stands for itself.** -/
theorem isKept_of_mem_mapChar? (h : mapChar? c = some t) (hd : d ∈ t) : isKept d = true :=
  isKept_iff.2 (isUnchanged_of_mem_mapChar? h hd)

theorem isKept_of_mem_plain (h : c ∈ plain) : isKept c = true :=
  isKept_iff.2 (isMapping_tables.isFree_plain h)

/-- **Composing leaves characters that stand for themselves.** -/
theorem isClosed_isKept : IsClosed (isKept · = true) where
  apart hparts hc := by
    simp only [isKept_iff] at hc ⊢
    exact (isMapping_tables.isFree_whole_iff (row_of_parts? hparts)).1 hc
  whole hwhole ha hb := by
    simp only [isKept_iff] at ha hb ⊢
    exact (isMapping_tables.isFree_whole_iff (row_of_whole? hwhole)).2 ⟨ha, hb⟩
  korean hc := by
    simp only [isKept_iff]
    exact isMapping_tables.isFree_korean hc

end FirmwareCatalog.Idna
