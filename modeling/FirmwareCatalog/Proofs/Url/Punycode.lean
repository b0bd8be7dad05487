/-
**Punycode can be undone.**

What is written after the last hyphen are numbers, each of them one insertion.  While the code
points are inserted in ascending order, the text that is there at any moment is known: of the
characters that the writer has passed, those up to the code point in hand, and of the others, those
below it. The distance counts how far the next insertion lies from the last one in the list of all
places for all code points, so the reader finds the same code point and the same place from it by a
division.

The bias only depends on the numbers so far, so that both sides agree on it.

Main definitions:

* `Punycode.alphabet` — the digits;
* `Punycode.partly` — the text in the midst of the insertions of a code point;
* `Punycode.IsAt` — where reader and writer are in it.

Main results:

* `Punycode.number?_digits` — a number is read as it was written;
* `Punycode.inserted?_digits`, `Punycode.IsAt.insert` — the reader inserts what the writer has;
* `Punycode.decode?_encode` — **a label is read from its ASCII form**;
* `Punycode.mem_of_mem_encode`, `Punycode.mem_of_decode?` — what ASCII forms and labels are made of:
  nothing in ASCII is inserted.
-/
import FirmwareCatalog.Proofs.Text.Digits
import FirmwareCatalog.Proofs.Text.Utf8
import FirmwareCatalog.Url.Punycode
import Mathlib.Data.List.Basic

set_option relaxedAutoImplicit false
set_option autoImplicit false

namespace FirmwareCatalog.Punycode

/-! ### Numbers -/

/-- The digits: small letters, and the digits of ASCII. -/
def alphabet : List Char := "abcdefghijklmnopqrstuvwxyz0123456789".toList

theorem value?_digit {n : Nat} (h : n < 36) : value? (digit n) = some n := by
  have hall : ∀ n < 36, value? (digit n) = some n := by decide
  exact hall n h

theorem digit_mem {n : Nat} (h : n < 36) : digit n ∈ alphabet := by
  have hall : ∀ n < 36, digit n ∈ alphabet := by decide
  exact hall n h

/-- All digits of a number are. -/
theorem mem_of_mem_digits (bias k n : Nat) :
    ∀ c ∈ digits bias k n, c ∈ alphabet := by
  induction n using Nat.strongRecOn generalizing k with
  | ind n ih =>
      have hbounds := threshold_bounds bias k
      intro c hc
      rw [digits] at hc
      split at hc
      · rw [List.mem_singleton.1 hc]
        exact digit_mem (by omega)
      · have hrest : (n - threshold bias k) % (36 - threshold bias k) < 36 - threshold bias k :=
          Nat.mod_lt _ (by omega)
        have hless : (n - threshold bias k) / (36 - threshold bias k) < n :=
          Nat.lt_of_le_of_lt (Nat.div_le_self _ _) (by omega)
        rcases List.mem_cons.1 hc with rfl | hc
        · exact digit_mem (by omega)
        · exact ih _ hless (k + 36) c hc

/-- **A number is read as it was written**, at any weight. -/
theorem number?_digits (bias : Nat) (rest : List Char) (n : Nat) :
    ∀ k weight, number? bias k weight (digits bias k n ++ rest) = some (n * weight, rest) := by
  induction n using Nat.strongRecOn with
  | ind n ih =>
      intro k weight
      have hbounds := threshold_bounds bias k
      rw [digits]
      by_cases hsmall : n < threshold bias k
      · rw [if_pos hsmall, List.singleton_append, number?, value?_digit (by omega)]
        simp only [Option.bind_eq_bind, Option.bind_some, if_pos hsmall]
      · have hmod : (n - threshold bias k) % (36 - threshold bias k) < 36 - threshold bias k :=
          Nat.mod_lt _ (by omega)
        have hless : (n - threshold bias k) / (36 - threshold bias k) < n :=
          Nat.lt_of_le_of_lt (Nat.div_le_self _ _) (by omega)
        have hnot : ¬ threshold bias k + (n - threshold bias k) % (36 - threshold bias k) <
            threshold bias k := by omega
        have hsum := Nat.mod_add_div (n - threshold bias k) (36 - threshold bias k)
        rw [if_neg hsmall, List.cons_append, number?, value?_digit (by omega)]
        simp only [Option.bind_eq_bind, Option.bind_some, if_neg hnot, ih _ hless,
          Option.some.injEq, Prod.mk.injEq, and_true]
        -- the last digit and the rest of the number make up the number again
        generalize hq : (n - threshold bias k) / (36 - threshold bias k) = q at hsum ⊢
        generalize hr : (n - threshold bias k) % (36 - threshold bias k) = r at hsum ⊢
        have hn : n = threshold bias k + r + (36 - threshold bias k) * q := by omega
        calc (threshold bias k + r) * weight + q * (weight * (36 - threshold bias k))
            = (threshold bias k + r + (36 - threshold bias k) * q) * weight := by
              rw [Nat.add_mul _ ((36 - threshold bias k) * q) weight]
              congr 1
              rw [Nat.mul_comm weight, ← Nat.mul_assoc, Nat.mul_comm q]
          _ = n * weight := by rw [← hn]

/-! ### Insertions -/

theorem insertAt_append {α : Type} (a : α) (as bs : List α) :
    insertAt a as.length (as ++ bs) = as ++ a :: bs := by
  induction as with
  | nil => cases bs <;> rfl
  | cons b as ih => exact congrArg (b :: ·) ih

/-- **One insertion**, read from the digits of its distance: the division by the number of places
gives the code point and the place. -/
theorem inserted?_digits {n i bias delta : Nat} {as bs : List Char} {c : Char} (hle : n ≤ c.toNat)
    (hdistance : i + delta = (c.toNat - n) * ((as ++ bs).length + 1) + as.length)
    (rest : List Char) :
    inserted? n i bias (as ++ bs) (digits bias 36 delta ++ rest) =
      inserted? c.toNat (as.length + 1) (adapt delta ((as ++ bs).length + 1) (i == 0))
        (as ++ c :: bs) rest := by
  have hplace : as.length < (as ++ bs).length + 1 := by
    rw [List.length_append]
    omega
  have hcode : n + (i + delta) / ((as ++ bs).length + 1) = c.toNat := by
    rw [hdistance, Nat.mul_comm, Nat.mul_add_div (Nat.succ_pos _), Nat.div_eq_of_lt hplace]
    omega
  have hposition : (i + delta) % ((as ++ bs).length + 1) = as.length := by
    rw [hdistance, Nat.mul_comm, Nat.mul_add_mod, Nat.mod_eq_of_lt hplace]
  have hnonempty : (digits bias 36 delta ++ rest).isEmpty = false := by
    rw [digits]
    split <;> rfl
  have hnumber := number?_digits bias rest delta 36 1
  rw [Nat.mul_one] at hnumber
  have hvalid := Utf8.toNat_cases c
  rw [inserted?, hnonempty, if_neg Bool.false_ne_true]
  split
  · rename_i hnone
    rw [hnumber] at hnone
    cases hnone
  · rename_i d after hsome
    rw [hnumber] at hsome
    cases hsome
    dsimp only
    rw [hcode, hposition, if_pos (by omega), Char.ofNat_toNat, insertAt_append]

/-- The text in the midst of the insertions of a code point: the writer has passed the characters of
the first part. -/
def partly (m : Nat) (passed ahead : List Char) : List Char :=
  passed.filter (fun c => c.toNat ≤ m) ++ ahead.filter (fun c => c.toNat < m)

/-- Where reader and writer are in it.  The reader has the code point and the place after its last
insertion, the writer the code point in hand and the distance from there. -/
structure IsAt (n i m : Nat) (passed ahead : List Char) (p : Progress) : Prop where
  written : p.written = (partly m passed ahead).length
  reached : n ≤ m
  distance : i + p.delta =
    (m - n) * (p.written + 1) + (passed.filter fun c => c.toNat ≤ m).length
  first : p.first = (i == 0)

variable {n i m : Nat} {passed ahead label : List Char} {c : Char} {p : Progress}

/-- The step over a character that was there before. -/
theorem IsAt.step_lt (h : IsAt n i m passed (c :: ahead) p) (hc : c.toNat < m) :
    IsAt n i m (passed ++ [c]) ahead (p.over m c) ∧ (p.over m c).output = p.output ∧
      (p.over m c).bias = p.bias ∧
      partly m (passed ++ [c]) ahead = partly m passed (c :: ahead) := by
  have hover : p.over m c = { p with delta := p.delta + 1 } := if_pos hc
  have hsame : partly m (passed ++ [c]) ahead = partly m passed (c :: ahead) := by
    simp [partly, List.filter_append, hc, Nat.le_of_lt hc]
  have hlength : ((passed ++ [c]).filter fun c => c.toNat ≤ m).length =
      (passed.filter fun c => c.toNat ≤ m).length + 1 := by
    simp [List.filter_append, Nat.le_of_lt hc]
  rw [hover]
  refine ⟨⟨?_, h.reached, ?_, h.first⟩, rfl, rfl, hsame⟩
  · rw [hsame]
    exact h.written
  · have hdistance := h.distance
    rw [hlength]
    dsimp only
    omega

/-- The step over a character that comes later. -/
theorem IsAt.step_gt (h : IsAt n i m passed (c :: ahead) p) (hc : m < c.toNat) :
    IsAt n i m (passed ++ [c]) ahead (p.over m c) ∧ (p.over m c).output = p.output ∧
      (p.over m c).bias = p.bias ∧
      partly m (passed ++ [c]) ahead = partly m passed (c :: ahead) := by
  have hover : p.over m c = p := by
    rw [Progress.over, if_neg (Nat.not_lt.2 (Nat.le_of_lt hc)), if_neg (Nat.ne_of_gt hc)]
  have hsame : partly m (passed ++ [c]) ahead = partly m passed (c :: ahead) := by
    simp [partly, List.filter_append, Nat.not_le.2 hc, Nat.not_lt.2 (Nat.le_of_lt hc)]
  have hfilter : (passed ++ [c]).filter (fun c => c.toNat ≤ m) =
      passed.filter fun c => c.toNat ≤ m := by
    simp [List.filter_append, Nat.not_le.2 hc]
  rw [hover]
  refine ⟨⟨?_, h.reached, ?_, h.first⟩, rfl, rfl, hsame⟩
  · rw [hsame]
    exact h.written
  · rw [hfilter]
    exact h.distance

/-- **The reader inserts what the writer has**, at the same place, and both go on from there. -/
theorem IsAt.insert (h : IsAt n i c.toNat passed (c :: ahead) p) (rest : List Char) :
    IsAt c.toNat ((passed.filter fun d => d.toNat ≤ c.toNat).length + 1) c.toNat (passed ++ [c])
        ahead (p.over c.toNat c) ∧
      (p.over c.toNat c).output = p.output ++ digits p.bias 36 p.delta ∧
      inserted? n i p.bias (partly c.toNat passed (c :: ahead))
          (digits p.bias 36 p.delta ++ rest) =
        inserted? c.toNat ((passed.filter fun d => d.toNat ≤ c.toNat).length + 1)
          (p.over c.toNat c).bias (partly c.toNat (passed ++ [c]) ahead) rest := by
  have hover : p.over c.toNat c = ⟨p.written + 1, 0, adapt p.delta (p.written + 1) p.first, false,
      p.output ++ digits p.bias 36 p.delta⟩ := by
    rw [Progress.over, if_neg (Nat.lt_irrefl _), if_pos rfl]
  have hbefore : partly c.toNat passed (c :: ahead) =
      passed.filter (fun d => d.toNat ≤ c.toNat) ++ ahead.filter fun d => d.toNat < c.toNat := by
    simp [partly]
  have hafter : partly c.toNat (passed ++ [c]) ahead =
      passed.filter (fun d => d.toNat ≤ c.toNat) ++
        c :: ahead.filter fun d => d.toNat < c.toNat := by
    simp [partly, List.filter_append]
  have hwritten := h.written
  rw [hbefore] at hwritten
  rw [hover]
  refine ⟨⟨?_, Nat.le_refl _, ?_, rfl⟩, rfl, ?_⟩
  · rw [hafter, hwritten]
    simp only [List.length_append, List.length_cons]
    omega
  · simp [List.filter_append]
  · have hdistance := h.distance
    rw [hwritten] at hdistance
    rw [hbefore, hafter, hwritten, h.first]
    exact inserted?_digits h.reached hdistance rest

/-- All insertions of a code point.  Whatever comes after them is read if it is read from where the
writer is in the end. -/
theorem IsAt.foldl {finish : Progress → List Char} (hend : ∀ n i p, IsAt n i m label [] p →
      ∃ rest, finish p = p.output ++ rest ∧
        inserted? n i p.bias (partly m label []) rest = some label)
    (ahead : List Char) : ∀ {n i : Nat} {passed : List Char} {p : Progress},
      label = passed ++ ahead → IsAt n i m passed ahead p →
      ∃ rest, finish (ahead.foldl (Progress.over m) p) = p.output ++ rest ∧
        inserted? n i p.bias (partly m passed ahead) rest = some label := by
  induction ahead with
  | nil =>
      intro n i passed p hlabel h
      rw [List.append_nil] at hlabel
      subst hlabel
      exact hend n i p h
  | cons c ahead ih =>
      intro n i passed p hlabel h
      have hnext : label = (passed ++ [c]) ++ ahead := by rw [hlabel, List.append_assoc]; rfl
      rw [List.foldl_cons]
      rcases Nat.lt_trichotomy c.toNat m with hc | hc | hc
      · obtain ⟨hat, houtput, hbias, htext⟩ := h.step_lt hc
        obtain ⟨rest, hfinish, hread⟩ := ih hnext hat
        exact ⟨rest, by rw [hfinish, houtput], by rw [← htext, ← hbias, hread]⟩
      · subst hc
        obtain ⟨hat, houtput, -⟩ := h.insert []
        obtain ⟨rest, hfinish, hread⟩ := ih hnext hat
        refine ⟨digits p.bias 36 p.delta ++ rest, ?_, ?_⟩
        · rw [hfinish, houtput, List.append_assoc]
        · rw [(h.insert rest).2.2, hread]
      · obtain ⟨hat, houtput, hbias, htext⟩ := h.step_gt hc
        obtain ⟨rest, hfinish, hread⟩ := ih hnext hat
        exact ⟨rest, by rw [hfinish, houtput], by rw [← htext, ← hbias, hread]⟩

theorem filter_lt_congr {start : Nat} (hle : start ≤ m)
    (hnone : ∀ c ∈ label, start ≤ c.toNat → m ≤ c.toNat) :
    label.filter (fun c => c.toNat < start) = label.filter fun c => c.toNat < m := by
  refine List.filter_congr fun c hc => decide_eq_decide.2 ⟨fun hlt => ?_, fun hlt => ?_⟩
  · exact Nat.lt_of_lt_of_le hlt hle
  · exact Nat.lt_of_not_le fun hge => absurd (hnone c hc hge) (Nat.not_le.2 hlt)

/-- Where the insertions of a code point begin, at any distance from the last one. -/
theorem IsAt.start {start : Nat} (hreached : n ≤ start) (hle : start ≤ m)
    (hwritten : p.written = (partly m [] label).length)
    (hdistance : i + p.delta = (start - n) * (p.written + 1)) (hfirst : p.first = (i == 0)) :
    IsAt n i m [] label { p with delta := p.delta + (m - start) * (p.written + 1) } where
  written := hwritten
  reached := Nat.le_trans hreached hle
  distance := by
    have hsplit : m - n = (start - n) + (m - start) := by omega
    rw [hsplit, Nat.add_mul, ← hdistance]
    exact (Nat.add_assoc i p.delta _).symm
  first := hfirst

/-- Where they end: the whole label has been passed, and the next code point may come. -/
theorem IsAt.finish (h : IsAt n i m label [] p) :
    partly m label [] = (label.filter fun c => c.toNat < m + 1) ∧
      i + (p.delta + 1) = (m + 1 - n) * (p.written + 1) := by
  have hlast : partly m label [] = label.filter fun c => c.toNat < m + 1 := by
    rw [partly, List.filter_nil, List.append_nil]
    exact List.filter_congr fun c _ => decide_eq_decide.2 Nat.lt_succ_iff.symm
  have hcount : (label.filter fun c => c.toNat ≤ m).length = p.written := by
    rw [h.written]
    simp [partly]
  have hdistance := h.distance
  have hreached := h.reached
  have hnext : m + 1 - n = (m - n) + 1 := by omega
  rw [hcount] at hdistance
  rw [hnext, Nat.add_mul]
  exact ⟨hlast, by omega⟩

/-- **All insertions**, of code points that ascend, from the first one that may come.  They are the
code points of the label from there on. -/
theorem insertions_eq (label : List Char) (ms : List Nat) :
    ∀ {n i start : Nat} {p : Progress}, (start :: ms).Pairwise (fun a b => a ≤ b) →
      ms.Pairwise (fun a b => a < b) → (∀ c ∈ label, start ≤ c.toNat → c.toNat ∈ ms) → n ≤ start →
      p.written = (label.filter fun c => c.toNat < start).length →
      i + p.delta = (start - n) * (p.written + 1) → p.first = (i == 0) →
      ∃ rest, insertions label ms start p = p.output ++ rest ∧
        inserted? n i p.bias (label.filter fun c => c.toNat < start) rest = some label := by
  induction ms with
  | nil =>
      intro n i start p _ _ hall _ _ _ _
      refine ⟨[], by rw [insertions, List.append_nil], ?_⟩
      have hlabel : label.filter (fun c => c.toNat < start) = label := by
        refine List.filter_eq_self.2 fun c hc => decide_eq_true ?_
        exact Nat.lt_of_not_le fun hle => absurd (hall c hc hle) List.not_mem_nil
      rw [hlabel, inserted?]
      rfl
  | cons m ms ih =>
      intro n i start p hstart hascend hall hreached hwritten hdistance hfirst
      obtain ⟨hbelow, hrest⟩ := List.pairwise_cons.1 hascend
      have hle : start ≤ m := (List.pairwise_cons.1 hstart).1 m List.mem_cons_self
      -- there is no code point of the label before the next one in the list
      have htext : label.filter (fun c => c.toNat < start) = partly m [] label :=
        filter_lt_congr hle fun c hc hge => by
          rcases List.mem_cons.1 (hall c hc hge) with heq | hmem
          · exact Nat.le_of_eq heq.symm
          · exact Nat.le_of_lt (hbelow _ hmem)
      have hend (n i : Nat) (p : Progress) (h : IsAt n i m label [] p) :
          ∃ rest, insertions label ms (m + 1) { p with delta := p.delta + 1 } = p.output ++ rest ∧
            inserted? n i p.bias (partly m label []) rest = some label := by
        obtain ⟨hlast, hnext⟩ := h.finish
        have hwritten := h.written
        rw [hlast] at hwritten ⊢
        refine ih (List.pairwise_cons.2 ⟨fun x hx => hbelow x hx, hrest.imp Nat.le_of_lt⟩) hrest
          (fun c hc hge => ?_) (Nat.le_succ_of_le h.reached) hwritten hnext h.first
        have hpast : start ≤ c.toNat := Nat.le_trans hle (Nat.le_of_succ_le hge)
        exact (List.mem_cons.1 (hall c hc hpast)).resolve_left (Nat.ne_of_gt hge)
      rw [htext] at hwritten ⊢
      exact IsAt.foldl hend label rfl (IsAt.start hreached hle hwritten hdistance hfirst)

/-! ### Labels -/

/-- The first ones of repeated items ascend if all of them do. -/
theorem pairwise_eraseDups (ns : List Nat) (h : ns.Pairwise (fun a b => a ≤ b)) :
    ns.eraseDups.Pairwise (fun a b => a < b) := by
  induction hlength : ns.length using Nat.strongRecOn generalizing ns with
  | ind k ih =>
      cases ns with
      | nil => exact List.Pairwise.nil
      | cons a ns =>
          obtain ⟨hle, hrest⟩ := List.pairwise_cons.1 h
          rw [List.eraseDups_cons]
          refine List.pairwise_cons.2 ⟨fun b hb => ?_, ?_⟩
          · obtain ⟨hmem, hne⟩ := List.mem_filter.1 (List.mem_eraseDups.1 hb)
            have hne' : b ≠ a := by simpa using hne
            exact Nat.lt_of_le_of_ne (hle b hmem) (Ne.symm hne')
          · refine ih _ ?_ _ (hrest.filter _) rfl
            rw [← hlength, List.length_cons]
            exact Nat.lt_succ_of_le (List.length_filter_le _ _)

/-- All that is written after the last hyphen are digits. -/
theorem mem_of_mem_insertions (label : List Char) (ms : List Nat) :
    ∀ {start : Nat} {p : Progress},
      (∀ c ∈ p.output, c ∈ alphabet) →
      ∀ c ∈ insertions label ms start p, c ∈ alphabet := by
  have hover (m : Nat) (cs : List Char) : ∀ {p : Progress},
      (∀ c ∈ p.output, c ∈ alphabet) →
      ∀ c ∈ (cs.foldl (Progress.over m) p).output,
        c ∈ alphabet := by
    induction cs with
    | nil =>
        intro p hp
        exact hp
    | cons d cs ih =>
        intro p hp
        refine ih fun c hc => ?_
        unfold Progress.over at hc
        split at hc
        · exact hp c hc
        split at hc
        · rcases List.mem_append.1 hc with hc | hc
          · exact hp c hc
          · exact mem_of_mem_digits _ _ _ c hc
        · exact hp c hc
  induction ms with
  | nil =>
      intro start p hp
      exact hp
  | cons m ms ih =>
      intro start p hp
      exact ih (hover m label hp)

/-- What stands before the last hyphen is kept, and what comes after it is inserted. -/
theorem decode?_append {front tail : List Char} (hfront : front ≠ []) (htail : '-' ∉ tail) :
    decode? (front ++ '-' :: tail) = inserted? 0x80 0 72 front tail := by
  have htake : (front ++ '-' :: tail).take ((front ++ '-' :: tail).length - tail.length - 1) =
      front := by
    have hlength : (front ++ '-' :: tail).length - tail.length - 1 = front.length := by
      simp only [List.length_append, List.length_cons]
      omega
    rw [hlength, List.take_left]
  have hnonempty : front.isEmpty = false := by
    cases front with
    | nil => exact absurd rfl hfront
    | cons c cs => rfl
  rw [decode?]
  simp only [(Text.reverse_takeWhile_ne htail front).1, htake, hnonempty, Bool.false_eq_true,
    if_false]

theorem decode?_of_not_mem {tail : List Char} (htail : '-' ∉ tail) :
    decode? tail = inserted? 0x80 0 72 [] tail := by
  rw [decode?]
  simp only [(Text.reverse_takeWhile_ne htail []).2, Nat.sub_self, Nat.zero_sub, List.take_zero,
    List.isEmpty_nil, if_true]

/-- **A label is read from its ASCII form.** -/
theorem decode?_encode (label : List Char) : decode? (encode label) = some label := by
  have hsorted : (((label.filter fun c => 0x80 ≤ c.toNat).map Char.toNat).mergeSort).Pairwise
      fun a b => decide (a ≤ b) = true := by
    refine List.pairwise_mergeSort (fun a b c hab hbc => ?_) (fun a b => ?_) _
    · simp only [decide_eq_true_eq] at *
      omega
    · simp only [Bool.or_eq_true, decide_eq_true_eq]
      omega
  have hmem (m : Nat) : m ∈ (((label.filter fun c => 0x80 ≤ c.toNat).map
      Char.toNat).mergeSort).eraseDups ↔ ∃ c ∈ label, 0x80 ≤ c.toNat ∧ c.toNat = m := by
    rw [List.mem_eraseDups, List.mem_mergeSort]
    simp [and_assoc]
  have hascend := pairwise_eraseDups _ (hsorted.imp of_decide_eq_true)
  rw [encode]
  generalize (((label.filter fun c => 0x80 ≤ c.toNat).map Char.toNat).mergeSort).eraseDups = ms
    at hmem hascend ⊢
  have hstart : (0x80 :: ms).Pairwise (fun a b => a ≤ b) := by
    refine List.pairwise_cons.2 ⟨fun m hm => ?_, hascend.imp Nat.le_of_lt⟩
    obtain ⟨c, -, hc, rfl⟩ := (hmem m).1 hm
    exact hc
  obtain ⟨rest, hrest, hread⟩ := insertions_eq label ms (n := 0x80) (i := 0)
    (p := ⟨(label.filter fun c => c.toNat < 0x80).length, 0, 72, true, []⟩) hstart hascend
    (fun c hc hge => (hmem c.toNat).2 ⟨c, hc, hge, rfl⟩) (Nat.le_refl _) rfl
    (by rw [Nat.sub_self, Nat.zero_mul, Nat.zero_add]) rfl
  have hdigits : ∀ c ∈ insertions label ms 0x80
      ⟨(label.filter fun c => c.toNat < 0x80).length, 0, 72, true, []⟩, c ∈ alphabet :=
    mem_of_mem_insertions label ms fun c hc => by cases hc
  have hhyphen : '-' ∉ rest := by
    intro hmem
    rw [hrest, List.nil_append] at hdigits
    exact absurd (hdigits '-' hmem) (by decide)
  rw [hrest, List.nil_append]
  by_cases hbasic : label.filter (fun c => c.toNat < 0x80) = []
  · rw [hbasic] at hread ⊢
    rw [List.isEmpty_nil, if_pos rfl, List.nil_append, decode?_of_not_mem hhyphen, hread]
  · have hnonempty : (label.filter fun c => c.toNat < 0x80).isEmpty = false := by
      rw [Bool.eq_false_iff, ne_eq, List.isEmpty_iff]
      exact hbasic
    rw [hnonempty, if_neg Bool.false_ne_true, List.append_assoc, List.singleton_append,
      decode?_append hbasic hhyphen, hread]

/-! ### What labels and their ASCII forms are made of -/

/-- **What is written**: the ASCII characters of the label, hyphens and digits. -/
theorem mem_of_mem_encode {label : List Char} {c : Char} (h : c ∈ encode label) :
    (c ∈ label ∧ c.toNat < 0x80) ∨ c = '-' ∨ c ∈ alphabet := by
  rw [encode] at h
  rcases List.mem_append.1 h with h | h
  · split at h
    · cases h
    · rcases List.mem_append.1 h with h | h
      · obtain ⟨hmem, hascii⟩ := List.mem_filter.1 h
        exact Or.inl ⟨hmem, of_decide_eq_true hascii⟩
      · exact Or.inr (Or.inl (List.mem_singleton.1 h))
  · exact Or.inr (Or.inr (mem_of_mem_insertions label _ (fun d hd => by cases hd) c h))

/-- An inserted item is the only new one. -/
theorem mem_insertAt {α : Type} {a b : α} {n : Nat} {as : List α} (h : b ∈ insertAt a n as) :
    b = a ∨ b ∈ as := by
  induction as generalizing n with
  | nil =>
      cases n
      all_goals exact Or.inl (List.mem_singleton.1 h)
  | cons c as ih =>
      cases n with
      | zero => exact List.mem_cons.1 h
      | succ n =>
          rcases List.mem_cons.1 h with rfl | h
          · exact Or.inr List.mem_cons_self
          · exact (ih h).imp_right (List.mem_cons_of_mem c)

/-- Only characters beyond ASCII are inserted. -/
theorem mem_of_inserted? {n i bias : Nat} {label s result : List Char} (hn : 0x80 ≤ n)
    (h : inserted? n i bias label s = some result) :
    ∀ c ∈ result, c.toNat < 0x80 → c ∈ label := by
  induction hlength : s.length using Nat.strongRecOn generalizing n i bias label s with
  | ind k ih =>
      rw [inserted?] at h
      split at h
      · cases h
        exact fun c hc _ => hc
      split at h
      · cases h
      case h_2 delta rest hnumber =>
        dsimp only at h
        split at h
        case isFalse => cases h
        case isTrue hvalid =>
          intro c hc hascii
          have hmem := ih _ (hlength ▸ length_lt_of_number? hnumber)
            (Nat.le_trans hn (Nat.le_add_right _ _)) h rfl c hc hascii
          refine (mem_insertAt hmem).resolve_left ?_
          -- the inserted character has the code point that the distance leads to
          rintro rfl
          rw [Utf8.toNat_ofNat (by omega)] at hascii
          exact absurd (Nat.le_trans hn (Nat.le_add_right _ _)) (Nat.not_le.2 hascii)

/-- **Nothing in ASCII is inserted**: the ASCII characters of a label stand in its ASCII form. -/
theorem mem_of_decode? {s label : List Char} (h : decode? s = some label) :
    ∀ c ∈ label, c.toNat < 0x80 → c ∈ s := by
  intro c hc hascii
  rw [decode?] at h
  split at h
  · exact absurd (mem_of_inserted? (Nat.le_refl _) h c hc hascii) List.not_mem_nil
  · exact List.mem_of_mem_take (mem_of_inserted? (Nat.le_refl _) h c hc hascii)

end FirmwareCatalog.Punycode
