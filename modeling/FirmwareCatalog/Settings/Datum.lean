/-
**Layers of settings.**

Settings come from three places: what holds by default, a file, and variables of the environment.
Each of them gives a tree of values, and the trees are laid over one another.  Where both have a
table, the tables are laid over one another key by key; anything else covers what is below it.  Every
value remembers where it came from, so that an error message can say so.

Main definitions:

* `Origin`, `Datum` — a tree of values with the places they came from;
* `Datum.covering` — one tree laid over another;
* `Datum.get?_covering` — what a key then has.
-/
import FirmwareCatalog.Decimal.Binary64
import FirmwareCatalog.Files.Path

set_option relaxedAutoImplicit false
set_option autoImplicit false

namespace FirmwareCatalog

/-- Where a value comes from. -/
inductive Origin where
  | defaults
  /-- A file, as error messages show it. -/
  | file (shown : Path)
  | environment
  deriving Repr

/-- A value that holds no others. -/
inductive Scalar where
  | unset
  | text (s : String)
  | bool (b : Bool)
  /-- A whole number from a place that has signs. -/
  | signed (n : Int)
  /-- A whole number from a place that has none. -/
  | unsigned (n : Nat)
  | real (x : Binary64)
  deriving DecidableEq, Repr

/-- A tree of values with the places they came from. -/
inductive Datum where
  | scalar (origin : Origin) (v : Scalar)
  | list (origin : Origin) (items : List Datum)
  | table (origin : Origin) (entries : List (String × Datum))
  deriving Repr

namespace Datum

def origin : Datum → Origin
  | .scalar o _ => o
  | .list o _ => o
  | .table o _ => o

def get? (key : String) : Datum → Option Datum
  | .table _ entries => entries.lookup key
  | _ => none

mutual

/-- A tree laid over another one. -/
def covering (upper : Datum) (lower : Datum) : Datum :=
  match upper with
  | .table o entries =>
    match lower with
    | .table _ below =>
      .table o (coverEntries entries below ++ below.filter fun e => (entries.lookup e.1).isNone)
    | _ => .table o entries
  | .scalar o v => .scalar o v
  | .list o items => .list o items

/-- The entries of the upper table, each laid over the lower one's entry of the same key. -/
def coverEntries (entries : List (String × Datum)) (below : List (String × Datum)) :
    List (String × Datum) :=
  match entries with
  | [] => []
  | (k, v) :: rest =>
    (k, match below.lookup k with
      | some w => covering v w
      | none => v) :: coverEntries rest below

end

/-! ### What a key has -/

def coverEntry (below : List (String × Datum)) (key : String) (v : Datum) : Datum :=
  match below.lookup key with
  | some w => covering v w
  | none => v

/-- Laying entries over others changes each of them on its own. -/
theorem lookup_coverEntries (entries below : List (String × Datum)) (key : String) :
    (coverEntries entries below).lookup key = (entries.lookup key).map (coverEntry below key) := by
  induction entries with
  | nil => simp [coverEntries]
  | cons e rest ih =>
    obtain ⟨k, v⟩ := e
    by_cases h : key = k
    · subst h
      cases found : below.lookup key <;> simp [coverEntries, coverEntry, found]
    · have ne : (key == k) = false := beq_eq_false_iff_ne.2 h
      simp only [coverEntries, List.lookup_cons, ne]
      exact ih

/-- Leaving out other keys does not change what a key has. -/
theorem lookup_filter (entries : List (String × Datum)) (keep : String → Bool) {key : String}
    (h : keep key = true) :
    (entries.filter fun e => keep e.1).lookup key = entries.lookup key := by
  induction entries with
  | nil => rfl
  | cons e rest ih =>
    obtain ⟨k, v⟩ := e
    by_cases eq : key = k
    · subst eq
      rw [List.filter_cons_of_pos (by exact h)]
      simp
    · have ne : (key == k) = false := beq_eq_false_iff_ne.2 eq
      by_cases keeps : keep k = true
      · rw [List.filter_cons_of_pos (by exact keeps)]
        simp only [List.lookup_cons, ne]
        exact ih
      · rw [List.filter_cons_of_neg (by exact keeps)]
        simp only [List.lookup_cons, ne]
        exact ih

/-- A key of two tables laid over one another has what the upper one says, laid over what the lower
one says, or else what the lower one says. -/
theorem get?_covering (o p : Origin) (entries below : List (String × Datum)) (key : String) :
    ((table o entries).covering (table p below)).get? key =
      ((entries.lookup key).map (coverEntry below key)).or (below.lookup key) := by
  simp only [covering, get?, List.lookup_append, lookup_coverEntries]
  cases h : entries.lookup key with
  | some v => rfl
  | none =>
    simp only [Option.map_none, Option.none_or]
    exact lookup_filter below (fun k => (entries.lookup k).isNone) (by simp [h])

end Datum

end FirmwareCatalog
