/-
**Pieces of a text.**

Cutting a text at a character and putting that character between pieces undo each other, as long as
no piece has the character in it.

Main results:

* `Text.mem_piece` — **the characters of the pieces** are those at which the text is not cut;
* `Text.splitAt_eq_splitOn` — the pieces are those of `List.splitOn`, so its laws hold for them;
* `Text.mem_intercalate` — a joined text has no other characters than its pieces.
-/
import FirmwareCatalog.Text.Pieces

set_option relaxedAutoImplicit false
set_option autoImplicit false

namespace FirmwareCatalog.Text

variable {α : Type}

/-- **The characters of the pieces** are those of the text at which it is not cut. -/
theorem mem_piece {cut : α → Bool} {s p : List α} (hp : p ∈ splitWhere cut s) :
    ∀ c ∈ p, c ∈ s ∧ cut c = false := by
  induction s generalizing p with
  | nil =>
      rw [splitWhere, List.mem_singleton] at hp
      subst hp
      exact List.forall_mem_nil _
  | cons d rest ih =>
      obtain ⟨q, ps, hsplit⟩ := List.exists_cons_of_ne_nil (splitWhere_ne_nil cut rest)
      rw [hsplit] at ih
      have hrest {r : List α} (hr : r ∈ q :: ps) : ∀ c ∈ r, c ∈ d :: rest ∧ cut c = false :=
        fun c hc => (ih hr c hc).imp_left (List.mem_cons_of_mem d)
      simp only [splitWhere, hsplit] at hp
      split at hp
      case isTrue =>
        rcases List.mem_cons.1 hp with rfl | hp
        · exact List.forall_mem_nil _
        · exact hrest hp
      case isFalse hcut =>
        rcases List.mem_cons.1 hp with rfl | hp
        · -- the character is put in front of the first piece
          exact List.forall_mem_cons.2
            ⟨⟨List.mem_cons_self, Bool.eq_false_iff.2 hcut⟩, hrest List.mem_cons_self⟩
        · exact hrest (List.mem_cons_of_mem q hp)

theorem cut_of_mem_splitWhere {cut : α → Bool} {s p : List α}
    (hp : p ∈ splitWhere cut s) : ∀ c ∈ p, cut c = false :=
  fun c hc => (mem_piece hp c hc).2

theorem mem_of_mem_splitWhere {cut : α → Bool} {s p : List α} (hp : p ∈ splitWhere cut s)
    {c : α} (hc : c ∈ p) : c ∈ s :=
  (mem_piece hp c hc).1

theorem splitWhere_eq_splitOnP (cut : α → Bool) (s : List α) :
    splitWhere cut s = s.splitOnP cut := by
  induction s with
  | nil => rfl
  | cons c rest ih =>
      obtain ⟨p, ps, hsplit⟩ := List.exists_cons_of_ne_nil (splitWhere_ne_nil cut rest)
      rw [List.splitOnP_cons_eq_if_modifyHead, ← ih, splitWhere, hsplit]
      rfl

/-- **The pieces of a text, as the library has them.** -/
theorem splitAt_eq_splitOn [BEq α] (c : α) (s : List α) : splitAt c s = s.splitOn c :=
  splitWhere_eq_splitOnP (· == c) s

/-- What is joined with a character between is made of the pieces and that character. -/
theorem mem_intercalate {d c : α} {ps : List (List α)} (h : c ∈ [d].intercalate ps) :
    c = d ∨ ∃ p ∈ ps, c ∈ p := by
  induction ps with
  | nil => cases h
  | cons p ps ih =>
      cases ps with
      | nil => exact Or.inr ⟨p, List.mem_cons_self, by simpa using h⟩
      | cons q ps =>
          rw [List.intercalate_cons_cons, List.append_assoc, List.mem_append, List.mem_append] at h
          rcases h with h | h | h
          · exact Or.inr ⟨p, List.mem_cons_self, h⟩
          · exact Or.inl (List.mem_singleton.1 h)
          · refine (ih h).imp_right ?_
            rintro ⟨r, hr, hc⟩
            exact ⟨r, List.mem_cons_of_mem p hr, hc⟩

end FirmwareCatalog.Text
