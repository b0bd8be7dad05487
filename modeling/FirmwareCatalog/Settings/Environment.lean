/-
**Settings in the environment.**

A variable whose name starts with `IPSW_`, in large or small letters, is a setting.  In the rest of
the name two underscores stand for a dot, and the parts between the dots are the keys of nested
tables, in small letters.  A name with an empty part is no setting.  Later variables are laid over
earlier ones.

Main definitions:

* `Environment` — variables with their values, in their order;
* `Environment.keys?` — the keys that a name stands for;
* `Environment.layer` — the settings of an environment.
-/
import FirmwareCatalog.Settings.VariableValue

set_option relaxedAutoImplicit false
set_option autoImplicit false

namespace FirmwareCatalog

/-- Variables with their values, in their order. -/
structure Environment where
  entries : List (String × String)
  deriving Repr

namespace Environment

/-! ### Variables -/

def empty : Environment := ⟨[]⟩

def get? (e : Environment) (name : String) : Option String := e.entries.lookup name

def unset (e : Environment) (name : String) : Environment :=
  ⟨e.entries.filter fun v => v.1 != name⟩

def set (e : Environment) (name value : String) : Environment :=
  if (e.get? name).isSome then
    ⟨e.entries.map fun v => if v.1 == name then (name, value) else v⟩
  else ⟨e.entries ++ [(name, value)]⟩

/-- A variable has the value that it was given. -/
theorem get?_set_self (e : Environment) (name value : String) :
    (e.set name value).get? name = some value := by
  obtain ⟨vars⟩ := e
  unfold set get?
  split
  · rename_i h
    induction vars with
    | nil => simp at h
    | cons v rest ih =>
      obtain ⟨k, w⟩ := v
      by_cases eq : name = k
      · subst eq; simp
      · have ne : (name == k) = false := beq_eq_false_iff_ne.2 eq
        have ne' : (k == name) = false := beq_eq_false_iff_ne.2 (Ne.symm eq)
        simp only [List.lookup_cons, ne] at h
        simp only [List.map_cons, ne', Bool.false_eq_true, if_false, List.lookup_cons, ne]
        exact ih h
  · rename_i h
    have none : vars.lookup name = none := Option.not_isSome_iff_eq_none.1 h
    simp [List.lookup_append, none]

/-- A variable that was unset has no value. -/
theorem get?_unset_self (e : Environment) (name : String) : (e.unset name).get? name = none := by
  obtain ⟨vars⟩ := e
  unfold unset get?
  induction vars with
  | nil => rfl
  | cons v rest ih =>
    obtain ⟨k, w⟩ := v
    by_cases eq : k = name
    · subst eq
      simpa using ih
    · have ne : (name == k) = false := beq_eq_false_iff_ne.2 (Ne.symm eq)
      have keep : (k != name) = true := by simpa using eq
      simp only [List.filter_cons, keep, if_true, List.lookup_cons, ne]
      exact ih

/-! ### Names and values -/

def mark : List Char := ['i', 'p', 's', 'w', '_']

def withDots : List Char → List Char
  | [] => []
  | '_' :: '_' :: rest => '.' :: withDots rest
  | c :: rest => c :: withDots rest

/-- The keys that a name stands for. -/
def keys? (name : String) : Option (List String) :=
  let s := Text.trim name.toList
  if (s.take mark.length).map Char.toLower = mark then
    let parts := Text.splitAt '.' (Text.trim (withDots (s.drop mark.length)))
    if parts.any List.isEmpty then none
    else some (parts.map fun p => String.ofList (p.map Char.toLower))
  else none

def nest (keys : List String) (v : Datum) : Datum :=
  keys.foldr (fun k inner => .table .environment [(k, inner)]) v

def setting? (v : String × String) : Option Datum :=
  (keys? v.1).map fun keys => nest keys (VariableValue.parse v.2)

/-- The settings of an environment. -/
def layer (e : Environment) : Datum :=
  (e.entries.filterMap setting?).foldl (fun below v => v.covering below) (.table .environment [])

end Environment

end FirmwareCatalog
