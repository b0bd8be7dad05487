/-
**The whole numbers of a value.**

A whole number that does not fit in 64 bits with a sign makes a document unreadable, so that what was
read has none.  Whether a value is in range can be seen from the numbers that stand in it, and
whether a table is, from what it has under a key and what it has beside that.

Main definitions:

* `Toml.InRange`, `Toml.Table.InRange` — all whole numbers of a value, or of a table, fit in 64 bits
  with a sign;
* `Toml.Holds` — a whole number stands in a value;
* `Toml.Table.others` — what a table has beside a key.

Main results:

* `Toml.inRange_iff` — **a value is in range exactly if the numbers in it fit**;
* `Toml.Table.inRange_put_new_iff`, `Toml.Table.inRange_replace_iff` — a table with a new value, and
  with another one in the place of what it had.
-/
import FirmwareCatalog.Toml.Reader

set_option relaxedAutoImplicit false
set_option autoImplicit false

namespace FirmwareCatalog

/-! ### Values in range -/

/-- All whole numbers of a value fit in 64 bits with a sign. -/
inductive Toml.InRange : Toml → Prop
  | string (s : List Char) : InRange (.string s)
  | integer {n : Int} (h : Toml.fits n = true) : InRange (.integer n)
  | real (x : Binary64) : InRange (.real x)
  | bool (b : Bool) : InRange (.bool b)
  | date : InRange .date
  | array {items : List Toml} (h : ∀ v ∈ items, InRange v) : InRange (.array items)
  | table {kind : Toml.Kind} {entries : List (List Char × Toml)} (h : ∀ e ∈ entries, InRange e.2) :
      InRange (.table kind entries)
  | tables {items : List (List (List Char × Toml))} (h : ∀ t ∈ items, ∀ e ∈ t, InRange e.2) :
      InRange (.tables items)

/-- A whole number stands in a value. -/
inductive Toml.Holds (n : Int) : Toml → Prop
  | here : Holds n (.integer n)
  | item {items : List Toml} {v : Toml} (mem : v ∈ items) (h : Holds n v) : Holds n (.array items)
  | entry {kind : Toml.Kind} {entries : List (List Char × Toml)} {e : List Char × Toml}
      (mem : e ∈ entries) (h : Holds n e.2) : Holds n (.table kind entries)
  | table {items : List (List (List Char × Toml))} {t : List (List Char × Toml)}
      {e : List Char × Toml} (mem : t ∈ items) (inner : e ∈ t) (h : Holds n e.2) :
      Holds n (.tables items)

namespace Toml

/-- All whole numbers of the values of a table fit in 64 bits with a sign. -/
def Table.InRange (t : Table) : Prop := ∀ e ∈ t, e.2.InRange

/-- Every number in a value in range fits. -/
theorem InRange.fits {v : Toml} (h : v.InRange) {n : Int} (hn : v.Holds n) : fits n = true := by
  induction hn with
  | here =>
      cases h with
      | integer h => exact h
  | item mem _ ih =>
      cases h with
      | array h => exact ih (h _ mem)
  | entry mem _ ih =>
      cases h with
      | table h => exact ih (h _ mem)
  | table mem inner _ ih =>
      cases h with
      | tables h => exact ih (h _ mem _ inner)

/-- A value is in range if every number in it fits, by recursion on the value. -/
theorem inRange_of_holds : ∀ v : Toml, (∀ n, v.Holds n → fits n = true) → v.InRange
  | .string s, _ => .string s
  | .integer n, h => .integer (h n .here)
  | .real x, _ => .real x
  | .bool b, _ => .bool b
  | .date, _ => .date
  | .array items, h => .array fun v hv => inRange_of_holds v fun n hn => h n (.item hv hn)
  | .table kind entries, h =>
      .table fun e he => inRange_of_holds e.2 fun n hn => h n (.entry he hn)
  | .tables items, h => .tables fun t ht e he =>
      inRange_of_holds e.2 fun n hn => h n (.table ht he hn)
termination_by v => sizeOf v
decreasing_by
  · have hlt := List.sizeOf_lt_of_mem hv
    simp only [Toml.array.sizeOf_spec]
    omega
  · have hlt := List.sizeOf_lt_of_mem he
    obtain ⟨k, w⟩ := e
    simp only [Toml.table.sizeOf_spec, Prod.mk.sizeOf_spec] at hlt ⊢
    omega
  · have hlt := List.sizeOf_lt_of_mem ht
    have hlt' := List.sizeOf_lt_of_mem he
    obtain ⟨k, w⟩ := e
    simp only [Toml.tables.sizeOf_spec, Prod.mk.sizeOf_spec] at hlt' ⊢
    omega

/-- **A value is in range exactly if every whole number in it fits.** -/
theorem inRange_iff {v : Toml} : v.InRange ↔ ∀ n, v.Holds n → fits n = true :=
  ⟨fun h _ hn => h.fits hn, inRange_of_holds v⟩

theorem inRange_array_iff {vs : List Toml} : (Toml.array vs).InRange ↔ ∀ v ∈ vs, v.InRange := by
  constructor
  · intro h
    cases h with
    | array h => exact h
  · exact .array

theorem inRange_table_iff {kind : Toml.Kind} {t : Table} :
    (Toml.table kind t).InRange ↔ t.InRange := by
  constructor
  · intro h
    cases h with
    | table h => exact h
  · exact .table

theorem inRange_tables_iff {items : List Table} :
    (Toml.tables items).InRange ↔ ∀ t ∈ items, t.InRange := by
  constructor
  · intro h
    cases h with
    | tables h => exact h
  · exact .tables

/-- The tables of one header, with another one in the place of the last, are in range exactly if they
were before and so is what is new in that one. -/
theorem inRange_tables_last_iff {items : List Table} {last inner : Table} {P : Prop}
    (hlast : items.getLast? = some last) (h : inner.InRange ↔ P ∧ last.InRange) :
    (Toml.tables (items.dropLast ++ [inner])).InRange ↔ P ∧ (Toml.tables items).InRange := by
  obtain ⟨front, rfl⟩ := List.getLast?_eq_some_iff.1 hlast
  have hsplit (t : Table) :
      (Toml.tables (front ++ [t])).InRange ↔ (∀ u ∈ front, u.InRange) ∧ t.InRange := by
    rw [inRange_tables_iff, List.forall_mem_append, List.forall_mem_singleton]
  rw [List.dropLast_concat, hsplit, hsplit, h]
  exact and_left_comm

/-! ### Values of a table -/

namespace Table

variable {t : Table} {key : List Char} {v w : Toml} {P : Prop}

theorem inRange_nil : InRange [] := List.forall_mem_nil _

/-- What a table has beside a key. -/
def others (t : Table) (key : List Char) : Table := t.eraseP fun e => e.1 = key

/-- A table is in range if what it has under a key is, and what it has beside that. -/
theorem inRange_iff_others (t : Table) (key : List Char) :
    InRange t ↔ (∀ v, t.get? key = some v → v.InRange) ∧ InRange (t.others key) := by
  unfold InRange others get?
  induction t with
  | nil => simp
  | cons e rest ih =>
      obtain ⟨k, v⟩ := e
      by_cases hk : k = key
      · subst hk
        simp
      · have hne : (key == k) = false := beq_eq_false_iff_ne.2 (Ne.symm hk)
        rw [List.forall_mem_cons, ih, List.lookup_cons, hne,
          List.eraseP_cons_of_neg (by simpa using hk), List.forall_mem_cons]
        exact and_left_comm

theorem others_put (t : Table) (key : List Char) (v : Toml) :
    (t.put key v).others key = t.others key := by
  unfold others
  induction t with
  | nil => simp [put]
  | cons e rest ih =>
      obtain ⟨k, w⟩ := e
      by_cases hk : k = key
      · simp [put, hk]
      · simp [put, hk, ih]

theorem inRange_put_iff : InRange (t.put key v) ↔ v.InRange ∧ InRange (t.others key) := by
  rw [inRange_iff_others (t.put key v) key, get?_put_self, others_put]
  simp

theorem InRange.get? (h : InRange t) (hget : t.get? key = some v) : v.InRange :=
  ((inRange_iff_others t key).1 h).1 v hget

/-- **With a new value** a table is in range exactly if it was before and so is what is new. -/
theorem inRange_put_new_iff (hget : t.get? key = none) (h : v.InRange ↔ P) :
    InRange (t.put key v) ↔ P ∧ InRange t := by
  rw [inRange_put_iff, h, inRange_iff_others t key, hget]
  simp

/-- **With a value in the place of another one** it is so as well, as long as the value has in it what
was there before. -/
theorem inRange_replace_iff (hget : t.get? key = some w) (h : v.InRange ↔ P ∧ w.InRange) :
    InRange (t.put key v) ↔ P ∧ InRange t := by
  rw [inRange_put_iff, h, inRange_iff_others t key, hget]
  simp [and_assoc]

end Table

end Toml

end FirmwareCatalog
