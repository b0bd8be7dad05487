/-
**Numeric addresses are read as they are shown.**

The four numbers of an address of four bytes are decimal, without zeros in front, so none of them is
taken for an octal or a hexadecimal one.

An address of eight groups is shown with a run of zero groups left out.  What is left of the groups
on either side has no two colons next to each other, so the gap is found again, and as many zeros
belong there as groups are missing.

Main results:

* `Ipv4.parse?_render` — **an address of four bytes is read as it is shown**;
* `Ipv6.longestRun_spec` — the run that is left out consists of zeros;
* `Ipv6.parse?_render` — **an address of eight groups is read as it is shown**.
-/
import FirmwareCatalog.Proofs.Outcome
import FirmwareCatalog.Proofs.Text.Digits
import FirmwareCatalog.Proofs.Text.Pieces
import FirmwareCatalog.Url.Address

set_option relaxedAutoImplicit false
set_option autoImplicit false

namespace FirmwareCatalog

/-! ### Four bytes -/

namespace Ipv4

/-- A decimal number is read as it is shown. -/
theorem number?_toDigits (n : Nat) : number? (Nat.toDigits 10 n) = some n := by
  rcases Nat.eq_zero_or_pos n with rfl | hpos
  · rfl
  · have hhead := Text.head?_toDigits_ne_zero (Nat.ne_of_gt hpos)
    have hdigits := Text.ofDigits?_toDigits n
    generalize Nat.toDigits 10 n = s at hhead hdigits
    unfold number?
    split
    · cases hdigits
    · exact absurd rfl hhead
    · exact absurd rfl hhead
    · exact absurd rfl hhead
    · exact absurd rfl hhead
    · exact hdigits

def numbers (a : Ipv4) : List Nat :=
  [a.value.toNat / 0x1000000, a.value.toNat / 0x10000 % 256, a.value.toNat / 0x100 % 256,
    a.value.toNat % 256]

theorem dot_not_mem_toDigits (n : Nat) : '.' ∉ Nat.toDigits 10 n := by
  intro hdot
  exact absurd (Text.isDigit_of_mem_toDigits hdot) (by decide)

theorem parts_render (a : Ipv4) : parts a.render = a.numbers.map (Nat.toDigits 10) := by
  have hpieces : Text.splitAt '.' a.render = a.numbers.map (Nat.toDigits 10) := by
    rw [Text.splitAt_eq_splitOn]
    refine List.splitOn_intercalate '.' (fun l hl => ?_) (by simp)
    obtain ⟨n, -, rfl⟩ := List.mem_map.1 hl
    exact dot_not_mem_toDigits n
  have hlast : (a.numbers.map (Nat.toDigits 10)).getLast? ≠ some [] := by
    simp [numbers]
  rw [parts, hpieces]
  exact if_neg fun h => hlast h.2

/-- Four bytes make a number. -/
theorem combine_bytes {w x y z : Nat} (hw : w < 256) (hx : x < 256) (hy : y < 256) (hz : z < 256) :
    combine [w, x, y, z] = some (((w * 256 + x) * 256 + y) * 256 + z) := by
  have hbytes : ¬(3 < 3 ∨ Nat.pow 256 (4 - 3) ≤ z ∨ [w, x, y].any (255 < ·) = true) := by
    have hpow : Nat.pow 256 (4 - 3) = 256 := rfl
    simp only [hpow, List.any_cons, List.any_nil, Bool.or_eq_true, decide_eq_true_eq,
      Bool.false_eq_true, or_false]
    omega
  have hvalue : [w, x, y].foldl (fun n b => n * 256 + b) 0 * Nat.pow 256 (4 - 3) + z =
      ((w * 256 + x) * 256 + y) * 256 + z := by
    have hpow : Nat.pow 256 (4 - 3) = 256 := rfl
    simp only [hpow, List.foldl_cons, List.foldl_nil]
    omega
  exact (if_neg hbytes).trans (congrArg some hvalue)

/-- **An address of four bytes is read as it is shown.** -/
theorem parse?_render (a : Ipv4) : parse? a.render = some a := by
  have hnumbers : (a.numbers.map (Nat.toDigits 10)).mapM number? = some a.numbers := by
    rw [mapM_eq_some_iff, List.forall₂_map_left_iff, List.forall₂_same]
    exact fun n _ => number?_toDigits n
  have hlt : a.value.toNat < 2 ^ 32 := a.value.toNat_lt
  have hcombine : combine a.numbers = some a.value.toNat := by
    rw [numbers, combine_bytes (by omega) (by omega) (by omega) (by omega), Option.some.injEq]
    omega
  rw [parse?, parts_render, hnumbers, Option.bind_eq_bind, Option.bind_some, hcombine,
    Option.bind_eq_bind, Option.bind_some, UInt32.ofNat_toNat]

theorem isMeant_render (a : Ipv4) : isMeant a.render = true := by
  rw [isMeant, parts_render]
  simp [numbers, number?_toDigits]

end Ipv4

/-! ### Eight groups -/

namespace Ipv6

variable {gs : List UInt16}

theorem group?_toDigits (g : UInt16) : group? (Nat.toDigits 16 g.toNat) = some g.toNat := by
  have hlength : (Nat.toDigits 16 g.toNat).length ≤ 4 :=
    (Nat.length_toDigits_le_iff (by decide) (by decide)).2 g.toNat_lt
  rw [group?, if_neg (Nat.not_lt.2 hlength), Text.ofDigits?_toDigits_base (by decide) (by decide)]

theorem ne_of_mem_toDigits {n : Nat} {c : Char} (h : c ∈ Nat.toDigits 16 n) :
    c ≠ ':' ∧ c ≠ '.' := by
  have hall : ∀ d < 16, Nat.digitChar d ≠ ':' ∧ Nat.digitChar d ≠ '.' := by decide
  obtain ⟨d, hd, rfl⟩ := Text.exists_of_mem_toDigits (by decide) h
  exact hall d hd

theorem exists_renderGroups_eq_cons (g : UInt16) (gs : List UInt16) :
    ∃ c t, renderGroups (g :: gs) = c :: t ∧ c ≠ ':' := by
  obtain ⟨c, ds, hds⟩ := List.exists_cons_of_ne_nil (Nat.toDigits_ne_nil (n := g.toNat) (b := 16))
  have hc : c ≠ ':' := (ne_of_mem_toDigits (hds ▸ List.mem_cons_self)).1
  cases gs with
  | nil => exact ⟨c, ds, by simp [renderGroups, hds], hc⟩
  | cons g' gs =>
      refine ⟨c, ds ++ ':' :: renderGroups (g' :: gs), ?_, hc⟩
      simp [renderGroups, List.intercalate_cons_cons, hds]

/-- **Groups are read as they are shown**, whether four bytes may end them or not. -/
theorem groups?_renderGroups (dotted : Bool) (gs : List UInt16) :
    groups? dotted (renderGroups gs) = some (gs.map UInt16.toNat) := by
  cases gs with
  | nil => rfl
  | cons g gs =>
      have hpieces : Text.splitAt ':' (renderGroups (g :: gs)) =
          (g :: gs).map fun g => Nat.toDigits 16 g.toNat := by
        rw [Text.splitAt_eq_splitOn]
        refine List.splitOn_intercalate ':' (fun l hl hcolon => ?_) (by simp)
        obtain ⟨h, -, rfl⟩ := List.mem_map.1 hl
        exact (ne_of_mem_toDigits hcolon).1 rfl
      have hread : ((g :: gs).map fun g => Nat.toDigits 16 g.toNat).mapM group? =
          some ((g :: gs).map UInt16.toNat) := by
        rw [mapM_eq_some_iff, List.forall₂_map_left_iff, List.forall₂_map_right_iff,
          List.forall₂_same]
        exact fun h _ => group?_toDigits h
      have hne : (renderGroups (g :: gs)).isEmpty = false := by
        obtain ⟨c, t, htext, -⟩ := exists_renderGroups_eq_cons g gs
        rw [htext]
        rfl
      rw [groups?, hne, if_neg Bool.false_ne_true, hpieces]
      dsimp only
      -- no group has a dot, so the last one is not read as four bytes
      cases hlast : ((g :: gs).map fun g => Nat.toDigits 16 g.toNat).getLast? with
      | none => simp at hlast
      | some last =>
          have hdot : last.contains '.' = false := by
            rw [Bool.eq_false_iff, ne_eq, List.contains_iff_mem]
            intro hmem
            obtain ⟨h, -, rfl⟩ := List.mem_map.1 (List.mem_of_getLast? hlast)
            exact (ne_of_mem_toDigits hmem).2 rfl
          simp only [hdot, Bool.and_false, Bool.false_eq_true, if_false]
          exact hread

/-! ### The gap -/

/-- A text without colons in front of another one has no gap in it. -/
theorem splitAtGap_append {s : List Char} (h : ':' ∉ s) (t : List Char) :
    splitAtGap (s ++ t) = (splitAtGap t).map fun p => (s ++ p.1, p.2) := by
  induction s with
  | nil =>
      rw [List.nil_append]
      exact Option.map_id'.symm
  | cons c s ih =>
      rw [List.mem_cons, not_or] at h
      rw [List.cons_append, splitAtGap, ih h.2, Option.map_map]
      · rfl
      · rintro r rfl
        exact absurd rfl h.1

theorem splitAtGap_colon {c : Char} (h : c ≠ ':') (t : List Char) :
    splitAtGap (':' :: c :: t) = (splitAtGap (c :: t)).map fun p => (':' :: p.1, p.2) := by
  rw [splitAtGap]
  rintro r - hr
  exact h (List.cons.inj hr).1

/-- **Groups have no gap in them**: the first one is behind them. -/
theorem splitAtGap_renderGroups (gs : List UInt16) (t : List Char) :
    splitAtGap (renderGroups gs ++ t) =
      (splitAtGap t).map fun p => (renderGroups gs ++ p.1, p.2) := by
  have hcolon (n : Nat) : ':' ∉ Nat.toDigits 16 n := fun h => (ne_of_mem_toDigits h).1 rfl
  induction gs with
  | nil => exact Option.map_id'.symm
  | cons g gs ih =>
      cases gs with
      | nil =>
          have hone : renderGroups [g] = Nat.toDigits 16 g.toNat := by simp [renderGroups]
          rw [hone]
          exact splitAtGap_append (hcolon _) t
      | cons g' gs =>
          obtain ⟨c, t', htext, hc⟩ := exists_renderGroups_eq_cons g' gs
          have hstep : renderGroups (g :: g' :: gs) =
              Nat.toDigits 16 g.toNat ++ ':' :: renderGroups (g' :: gs) := by
            simp [renderGroups, List.intercalate_cons_cons]
          have hbehind := splitAtGap_colon hc (t' ++ t)
          rw [← List.cons_append, ← htext, ih] at hbehind
          rw [hstep, List.append_assoc, splitAtGap_append (hcolon _), List.cons_append, hbehind,
            Option.map_map, Option.map_map]
          refine congrArg (Option.map · _) (funext fun p => ?_)
          simp

/-! ### Zeros -/

theorem zeroRuns_drop (gs : List UInt16) (i : Nat) :
    (zeroRuns gs).drop i = zeroRuns (gs.drop i) := by
  induction gs generalizing i with
  | nil => cases i <;> rfl
  | cons g gs ih =>
      cases i with
      | zero => rfl
      | succ i =>
          rw [List.drop_succ_cons, ← ih i]
          rfl

/-- The groups begin with as many zeros as are counted there. -/
theorem zeros_of_head? {n : Nat} (h : (zeroRuns gs).head?.getD 0 = n) :
    gs = List.replicate n 0 ++ gs.drop n := by
  induction gs generalizing n with
  | nil =>
      cases n with
      | zero => rfl
      | succ n => cases h
  | cons g gs ih =>
      rw [zeroRuns, List.head?_cons, Option.getD_some] at h
      split at h
      · rename_i hzero
        obtain rfl := h
        have hrest := ih rfl
        rw [hzero, List.replicate_succ, List.cons_append, List.drop_succ_cons]
        exact congrArg (0 :: ·) hrest
      · obtain rfl := h
        rfl

/-- The greatest of numbers is one of them, or the number it is compared to. -/
theorem foldl_max_mem (n : Nat) (ns : List Nat) : ns.foldl max n = n ∨ ns.foldl max n ∈ ns := by
  induction ns generalizing n with
  | nil => exact Or.inl rfl
  | cons m ns ih =>
      rw [List.foldl_cons]
      rcases ih (max n m) with h | h
      · rw [h]
        rcases Nat.le_total n m with hle | hle
        · rw [Nat.max_eq_right hle]
          exact Or.inr List.mem_cons_self
        · rw [Nat.max_eq_left hle]
          exact Or.inl rfl
      · exact Or.inr (List.mem_cons_of_mem m h)

/-- **The run that is left out consists of zeros.** -/
theorem longestRun_spec {start length : Nat} (h : longestRun gs = (start, length))
    (hpos : 0 < length) :
    gs = gs.take start ++ List.replicate length 0 ++ gs.drop (start + length) := by
  rw [longestRun, Prod.mk.injEq] at h
  obtain ⟨hstart, hlength⟩ := h
  have hmem : length ∈ zeroRuns gs := by
    rcases foldl_max_mem 0 (zeroRuns gs) with hzero | hmem
    · omega
    · rw [← hlength]
      exact hmem
  -- the run starts at the first place where that many zeros are counted
  have hplace : (zeroRuns gs)[start]? = some length := by
    cases hfind : (zeroRuns gs).findIdx? (· == (zeroRuns gs).foldl max 0) with
    | none =>
        have hnone := List.findIdx?_eq_none_iff.1 hfind length hmem
        rw [hlength, beq_self_eq_true] at hnone
        cases hnone
    | some i =>
        obtain ⟨hi, heq, -⟩ := List.findIdx?_eq_some_iff_getElem.1 hfind
        rw [hfind, Option.getD_some] at hstart
        subst hstart
        rw [List.getElem?_eq_getElem hi, beq_iff_eq.1 heq, hlength]
  have hzeros : gs.drop start = List.replicate length 0 ++ (gs.drop start).drop length := by
    refine zeros_of_head? ?_
    rw [← zeroRuns_drop, List.head?_drop, hplace, Option.getD_some]
  calc gs = gs.take start ++ gs.drop start := (List.take_append_drop start gs).symm
    _ = gs.take start ++ (List.replicate length 0 ++ gs.drop (start + length)) := by
        rw [← List.drop_drop, ← hzeros]
    _ = gs.take start ++ List.replicate length 0 ++ gs.drop (start + length) :=
        (List.append_assoc _ _ _).symm

theorem ofGroups?_toNat (a : Ipv6) : ofGroups? (a.groups.map UInt16.toNat) = some a := by
  have hsame : (a.groups.map UInt16.toNat).map UInt16.ofNat = a.groups := by
    rw [List.map_map]
    exact (List.map_congr_left fun g _ => UInt16.ofNat_toNat).trans (List.map_id _)
  rw [ofGroups?, dif_pos (by rw [hsame, a.groups_length])]
  simp only [hsame]

/-- **An address of eight groups is read as it is shown.** -/
theorem parse?_render (a : Ipv6) : parse? a.render = some a := by
  rcases hrun : longestRun a.groups with ⟨start, length⟩
  rw [render, hrun]
  dsimp only
  split
  case isTrue =>
    have hgap := splitAtGap_renderGroups a.groups []
    rw [List.append_nil] at hgap
    rw [parse?, hgap]
    dsimp only [splitAtGap, Option.map_none]
    rw [groups?_renderGroups]
    exact ofGroups?_toNat a
  case isFalse hlong =>
    have hspec := longestRun_spec hrun (by omega)
    have hgap := splitAtGap_renderGroups (a.groups.take start)
      (':' :: ':' :: renderGroups (a.groups.drop (start + length)))
    rw [splitAtGap, Option.map_some, List.append_nil] at hgap
    have hlength : (a.groups.take start).length + (a.groups.drop (start + length)).length =
        8 - length ∧ length ≤ 8 := by
      have hsum := congrArg List.length hspec
      rw [a.groups_length] at hsum
      simp only [List.length_append, List.length_replicate] at hsum
      omega
    have hmissing : 8 - (a.groups.take start).length -
        (a.groups.drop (start + length)).length = length := by omega
    have hall : a.groups.map UInt16.toNat = (a.groups.take start).map UInt16.toNat ++
        List.replicate length 0 ++ (a.groups.drop (start + length)).map UInt16.toNat := by
      conv_lhs => rw [hspec]
      simp
    rw [parse?, List.append_assoc, List.cons_append, List.cons_append, List.nil_append, hgap]
    dsimp only
    rw [groups?_renderGroups, groups?_renderGroups]
    simp only [Option.bind_eq_bind, Option.bind_some, List.length_map]
    rw [if_neg (by omega), hmissing, ← hall]
    exact ofGroups?_toNat a

end Ipv6

end FirmwareCatalog
