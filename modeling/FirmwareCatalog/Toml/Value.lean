/-
**What a TOML document says.**

A document is a table: keys with values, some of which are tables themselves.  How a table came into
being decides what may still be added to it: one that is written between braces is finished, one that
has a header can be entered by its header only once, one that was only passed through by a header may
get its own header later, and one made by dots in a key grows by dots.

Main definitions:

* `Toml`, `Toml.Kind` — values, and how tables come into being;
* `Toml.Table` — keys with values, in the order in which they came;
* `Toml.Table.define`, `Toml.Table.enter`, `Toml.Table.extend` — what the lines of a document do.
-/
import FirmwareCatalog.Decimal.Binary64

set_option relaxedAutoImplicit false
set_option autoImplicit false

namespace FirmwareCatalog

/-- How a table came into being. -/
inductive Toml.Kind where
  /-- Between braces. -/
  | closed
  /-- By a header of its own. -/
  | headed
  /-- By a header of a table in it. -/
  | passed
  /-- By dots in a key. -/
  | dotted
  deriving DecidableEq, Repr

/-- A value of a document. -/
inductive Toml where
  | string (s : List Char)
  | integer (n : Int)
  | real (x : Binary64)
  | bool (b : Bool)
  /-- A date, a time, or both. -/
  | date
  | array (items : List Toml)
  | table (kind : Toml.Kind) (entries : List (List Char × Toml))
  /-- Tables that have the same header, in their order. -/
  | tables (items : List (List (List Char × Toml)))
  deriving Repr

namespace Toml

/-- Keys with values, in the order in which they came. -/
abbrev Table : Type := List (List Char × Toml)

namespace Table

def get? (t : Table) (key : List Char) : Option Toml := t.lookup key

/-- The table with another value for a key; a new key comes last. -/
def put (t : Table) (key : List Char) (v : Toml) : Table :=
  match t with
  | [] => [(key, v)]
  | (k, w) :: rest => if k = key then (k, v) :: rest else (k, w) :: Table.put rest key v

theorem get?_put_self (t : Table) (key : List Char) (v : Toml) : (t.put key v).get? key = some v := by
  induction t with
  | nil => simp [put, get?]
  | cons e rest ih =>
    obtain ⟨k, w⟩ := e
    by_cases h : k = key
    · simp [put, get?, h]
    · have back : (key == k) = false := beq_eq_false_iff_ne.2 (Ne.symm h)
      simp only [put, if_neg h, get?, List.lookup_cons, back]
      exact ih

def define? (t : Table) (key : List Char) (v : Toml) : Option Table :=
  match t.get? key with
  | some _ => none
  | none => some (t.put key v)

/-- What a change does to the table below a path of headers.  Tables that are not there yet are
passed through, and of tables with the same header the last one is meant. -/
def below (change : Table → Option Table) : List (List Char) → Table → Option Table
  | [], t => change t
  | key :: path, t =>
    match t.get? key with
    | none => (below change path []).map fun inner => t.put key (.table .passed inner)
    | some (.table kind inner) =>
      if kind = .closed then none
      else (below change path inner).map fun inner => t.put key (.table kind inner)
    | some (.tables items) =>
      match items.getLast? with
      | none => none
      | some last =>
        (below change path last).map fun inner => t.put key (.tables (items.dropLast ++ [inner]))
    | some _ => none

/-- A header of a table. -/
def enter (key : List Char) (t : Table) : Option Table :=
  match t.get? key with
  | none => some (t.put key (.table .headed []))
  | some (.table .passed inner) => some (t.put key (.table .headed inner))
  | some _ => none

/-- A header of one more table of the same name. -/
def enterNext (key : List Char) (t : Table) : Option Table :=
  match t.get? key with
  | none => some (t.put key (.tables [[]]))
  | some (.tables items) => some (t.put key (.tables (items ++ [[]])))
  | some _ => none

/-- A key with dots and its value.  Tables on the way are made by dots, or have only been passed
through; but the one that the value comes into is made by dots. -/
def extend (v : Toml) : List (List Char) → Table → Option Table
  | [], _ => none
  | [key], t => t.define? key v
  | key :: next :: path, t =>
    match t.get? key with
    | none => (extend v (next :: path) []).map fun inner => t.put key (.table .dotted inner)
    | some (.table .dotted inner) =>
      (extend v (next :: path) inner).map fun inner => t.put key (.table .dotted inner)
    | some (.table .passed inner) =>
      if path.isEmpty then none
      else (extend v (next :: path) inner).map fun inner => t.put key (.table .passed inner)
    | some (.tables items) =>
      match items.getLast?, path with
      | some last, _ :: _ =>
        (extend v (next :: path) last).map fun inner =>
          t.put key (.tables (items.dropLast ++ [inner]))
      | _, _ => none
    | some _ => none

end Table

end Toml

end FirmwareCatalog
