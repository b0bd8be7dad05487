/-
**Steps that can fail.**

Readers and decoders are put together from steps, of which each one stops at its first fault.  A
sequence of steps succeeds exactly if all of them do.

Main results:

* `bind_eq_ok_iff`, `bind_eq_error_iff` — a step and what follows it;
* `check_eq_ok_iff` — the same where the step is only a check;
* `map_eq_ok_iff` — a step whose result is changed;
* `mapM_eq_some_iff`, `exists_mapM_iff`, `exists_getElem?_of_mapM`, … — the same step for each item of a list.
-/
import Mathlib.Data.List.Forall2

set_option relaxedAutoImplicit false
set_option autoImplicit false

namespace FirmwareCatalog

/-- What follows a step that can fail has a result exactly if both have. -/
theorem bind_eq_ok_iff {ε α β : Type} {x : Except ε α} {next : α → Except ε β} {b : β} :
    (x >>= next) = .ok b ↔ ∃ a, x = .ok a ∧ next a = .ok b := by
  cases x with
  | error e => exact ⟨nofun, fun ⟨_, h, _⟩ => nomatch h⟩
  | ok a =>
      constructor
      · intro h
        exact ⟨a, rfl, h⟩
      · rintro ⟨a', h, hnext⟩
        cases h
        exact hnext

/-- It has a fault exactly if the step has, or else what follows. -/
theorem bind_eq_error_iff {ε α β : Type} {x : Except ε α} {next : α → Except ε β} {e : ε} :
    (x >>= next) = .error e ↔ x = .error e ∨ ∃ a, x = .ok a ∧ next a = .error e := by
  cases x with
  | error e' =>
      constructor
      · intro h
        cases h
        exact Or.inl rfl
      · rintro (h | ⟨a, h, -⟩)
        · cases h
          rfl
        · cases h
  | ok a =>
      constructor
      · intro h
        exact Or.inr ⟨a, rfl, h⟩
      · rintro (h | ⟨a', h, hnext⟩)
        · cases h
        · cases h
          exact hnext

/-- A check gives nothing that what follows could use. -/
theorem check_eq_ok_iff {ε β : Type} {x : Except ε Unit} {next : Except ε β} {b : β} :
    (x >>= fun _ => next) = .ok b ↔ x = .ok () ∧ next = .ok b :=
  bind_eq_ok_iff.trans ⟨fun ⟨_, h⟩ => h, fun h => ⟨(), h⟩⟩

/-- A changed result is the change of a result. -/
theorem map_eq_ok_iff {ε α β : Type} {x : Except ε α} {f : α → β} {b : β} :
    x.map f = .ok b ↔ ∃ a, x = .ok a ∧ f a = b := by
  cases x <;> simp [Except.map]

/-- A step for each item of a list has a result exactly if it has one for each of them. -/
theorem mapM_eq_some_iff {α β : Type} {f : α → Option β} {as : List α} {bs : List β} :
    as.mapM f = some bs ↔ List.Forall₂ (fun a b => f a = some b) as bs := by
  induction as generalizing bs with
  | nil =>
      rw [List.mapM_nil, List.forall₂_nil_left_iff, Option.pure_def, Option.some.injEq, eq_comm]
  | cons a as ih =>
      rw [List.mapM_cons, List.forall₂_cons_left_iff]
      simp only [Option.bind_eq_bind, Option.bind_eq_some_iff, Option.pure_def, Option.some.injEq,
        ih]
      constructor
      · rintro ⟨b, hb, bs, hbs, rfl⟩
        exact ⟨b, bs, hb, hbs, rfl⟩
      · rintro ⟨b, bs, hb, hbs, rfl⟩
        exact ⟨b, hb, bs, hbs, rfl⟩

/-- It has one exactly if the step has one for each item. -/
theorem exists_mapM_iff {α β : Type} {f : α → Option β} {as : List α} :
    (∃ bs, as.mapM f = some bs) ↔ ∀ a ∈ as, ∃ b, f a = some b := by
  simp only [mapM_eq_some_iff]
  induction as with
  | nil => simp
  | cons a as ih =>
      rw [List.forall_mem_cons, ← ih]
      constructor
      · rintro ⟨bs, h⟩
        obtain ⟨b, bs, hb, hbs, rfl⟩ := List.forall₂_cons_left_iff.1 h
        exact ⟨⟨b, hb⟩, bs, hbs⟩
      · rintro ⟨⟨b, hb⟩, bs, hbs⟩
        exact ⟨b :: bs, .cons hb hbs⟩

/-- Each item has its result at the same place. -/
theorem exists_getElem?_of_mapM {α β : Type} {f : α → Option β} {as : List α} {bs : List β}
    (h : as.mapM f = some bs) {i : Nat} {a : α} (ha : as[i]? = some a) :
    ∃ b, bs[i]? = some b ∧ f a = some b := by
  have hall := mapM_eq_some_iff.1 h
  clear h
  induction hall generalizing i with
  | nil => cases ha
  | @cons a' b as bs hhead htail ih =>
      cases i with
      | zero =>
          cases ha
          exact ⟨b, rfl, hhead⟩
      | succ i => exact ih ha

theorem exists_of_mem_mapM {α β : Type} {f : α → Option β} {as : List α} {bs : List β}
    (h : as.mapM f = some bs) {b : β} (hb : b ∈ bs) : ∃ a ∈ as, f a = some b := by
  have hall := mapM_eq_some_iff.1 h
  induction hall with
  | nil => cases hb
  | cons hhead htail ih =>
      rcases List.mem_cons.1 hb with rfl | hb
      · exact ⟨_, List.mem_cons_self, hhead⟩
      · obtain ⟨a, ha, hab⟩ := ih (mapM_eq_some_iff.2 htail) hb
        exact ⟨a, List.mem_cons_of_mem _ ha, hab⟩

end FirmwareCatalog
