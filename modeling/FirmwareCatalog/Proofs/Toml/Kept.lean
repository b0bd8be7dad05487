/-
**Numbers are never dropped.**

A whole number that a document gives is there to stay.  No line takes a value out of a table: what a
line puts in the place of a table has in it all that the table had.  So a table is in range exactly
if everything that the lines brought was, and whether a document is in range can be seen from its
table.

Main results:

* `Toml.Table.inRange_extend_iff`, `Toml.Table.inRange_below_iff` — keys with dots, and changes below
  headers;
* `Toml.Draft.inRange_add?_iff` — **a line** leaves a table in range exactly if the table and what
  the line brings were;
* `Toml.Draft.inRange_foldlM_iff` — so do all lines of a document.
-/
import FirmwareCatalog.Proofs.Toml.Range

set_option relaxedAutoImplicit false
set_option autoImplicit false

namespace FirmwareCatalog.Toml

/-! ### What lines do -/

namespace Table

variable {t t' : Table} {key : List Char} {v : Toml}

/-- **A key with dots and its value** leave a table in range exactly if both were in range, by
induction on the keys. -/
theorem inRange_extend_iff {path : List (List Char)} :
    ∀ {t t' : Table}, extend v path t = some t' → (InRange t' ↔ v.InRange ∧ InRange t) := by
  induction path with
  | nil =>
      intro t t' hextend
      simp [Table.extend] at hextend
  | cons key path ih =>
      intro t t' hextend
      cases path with
      | nil =>
          rw [Table.extend, Table.define?] at hextend
          split at hextend
          · cases hextend
          · rename_i hget
            cases hextend
            exact inRange_put_new_iff hget Iff.rfl
      | cons next path =>
          rw [Table.extend] at hextend
          split at hextend
          · rename_i hget
            obtain ⟨inner, hinner, rfl⟩ := Option.map_eq_some_iff.1 hextend
            refine inRange_put_new_iff hget ?_
            rw [inRange_table_iff, ih hinner, and_iff_left inRange_nil]
          · rename_i below hget
            obtain ⟨inner, hinner, rfl⟩ := Option.map_eq_some_iff.1 hextend
            refine inRange_replace_iff hget ?_
            rw [inRange_table_iff, inRange_table_iff, ih hinner]
          · rename_i below hget
            split at hextend
            · cases hextend
            · obtain ⟨inner, hinner, rfl⟩ := Option.map_eq_some_iff.1 hextend
              refine inRange_replace_iff hget ?_
              rw [inRange_table_iff, inRange_table_iff, ih hinner]
          · rename_i items hget
            split at hextend
            · rename_i last _ hlast
              obtain ⟨inner, hinner, rfl⟩ := Option.map_eq_some_iff.1 hextend
              exact inRange_replace_iff hget (inRange_tables_last_iff hlast (ih hinner))
            · cases hextend
          · cases hextend

/-- A change that drops nothing does not do so below a path of headers either, whatever is new in
it. -/
theorem inRange_below_iff {change : Table → Option Table} {P : Prop}
    (hchange : ∀ {t t' : Table}, change t = some t' → (InRange t' ↔ P ∧ InRange t))
    {path : List (List Char)} :
    ∀ {t t' : Table}, below change path t = some t' → (InRange t' ↔ P ∧ InRange t) := by
  induction path with
  | nil =>
      intro t t' hbelow
      exact hchange hbelow
  | cons key path ih =>
      intro t t' hbelow
      rw [Table.below] at hbelow
      split at hbelow
      · rename_i hget
        obtain ⟨inner, hinner, rfl⟩ := Option.map_eq_some_iff.1 hbelow
        refine inRange_put_new_iff hget ?_
        rw [inRange_table_iff, ih hinner, and_iff_left inRange_nil]
      · rename_i kind below hget
        split at hbelow
        · cases hbelow
        · obtain ⟨inner, hinner, rfl⟩ := Option.map_eq_some_iff.1 hbelow
          refine inRange_replace_iff hget ?_
          rw [inRange_table_iff, inRange_table_iff, ih hinner]
      · rename_i items hget
        split at hbelow
        · cases hbelow
        · rename_i last hlast
          obtain ⟨inner, hinner, rfl⟩ := Option.map_eq_some_iff.1 hbelow
          exact inRange_replace_iff hget (inRange_tables_last_iff hlast (ih hinner))
      · cases hbelow

/-- A header of a table brings nothing and drops nothing. -/
theorem inRange_enter_iff (henter : t.enter key = some t') : InRange t' ↔ True ∧ InRange t := by
  unfold Table.enter at henter
  split at henter
  · rename_i hget
    cases henter
    exact inRange_put_new_iff hget (iff_true_intro (.table inRange_nil))
  · rename_i inner hget
    cases henter
    refine inRange_replace_iff hget ?_
    rw [inRange_table_iff, inRange_table_iff, true_and]
  · cases henter

/-- Nor does a header of one more table of the same name. -/
theorem inRange_enterNext_iff (henter : t.enterNext key = some t') :
    InRange t' ↔ True ∧ InRange t := by
  unfold Table.enterNext at henter
  split at henter
  · rename_i hget
    cases henter
    refine inRange_put_new_iff hget (iff_true_intro (inRange_tables_iff.2 ?_))
    exact List.forall_mem_singleton.2 inRange_nil
  · rename_i items hget
    cases henter
    refine inRange_replace_iff hget ?_
    rw [inRange_tables_iff, inRange_tables_iff, List.forall_mem_append, List.forall_mem_singleton,
      and_iff_left inRange_nil, true_and]
  · cases henter

end Table

/-! ### Lines of a document -/

/-- The value that a line brings is in range. -/
def Line.InRange : Line → Prop
  | .pair _ v => v.InRange
  | _ => True

variable {d d' : Draft}

theorem Draft.inRange_open?_iff {path : List (List Char)} {enter : List Char → Table → Option Table}
    (henter : ∀ {key t t'}, enter key t = some t' → (Table.InRange t' ↔ True ∧ Table.InRange t))
    (h : d.open? path enter = some d') : d'.table.InRange ↔ True ∧ d.table.InRange := by
  unfold Draft.open? at h
  split at h
  · cases h
  · obtain ⟨t, ht, rfl⟩ := Option.map_eq_some_iff.1 h
    exact Table.inRange_below_iff henter ht

/-- **A line** leaves a table in range exactly if the table and what the line brings were in range.
-/
theorem Draft.inRange_add?_iff {l : Line} (h : d.add? l = some d') :
    d'.table.InRange ↔ l.InRange ∧ d.table.InRange := by
  cases l with
  | header path => exact Draft.inRange_open?_iff Table.inRange_enter_iff h
  | nextHeader path => exact Draft.inRange_open?_iff Table.inRange_enterNext_iff h
  | pair path v =>
      obtain ⟨t, ht, rfl⟩ := Option.map_eq_some_iff.1 h
      exact Table.inRange_below_iff Table.inRange_extend_iff ht

/-- Lines one after another leave a table in range exactly if it was in range and so is all that
they bring. -/
theorem Draft.inRange_foldlM_iff {ls : List Line}
    (h : ls.foldlM Draft.add? d = some d') :
    d'.table.InRange ↔ (∀ l ∈ ls, l.InRange) ∧ d.table.InRange := by
  induction ls generalizing d with
  | nil =>
      cases h
      simp
  | cons l ls ih =>
      rw [List.foldlM_cons] at h
      obtain ⟨d₁, hadd, h⟩ := Option.bind_eq_some_iff.1 h
      rw [ih h, Draft.inRange_add?_iff hadd, List.forall_mem_cons, and_left_comm, and_assoc]

end FirmwareCatalog.Toml
