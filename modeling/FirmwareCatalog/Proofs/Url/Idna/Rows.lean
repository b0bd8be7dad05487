/-
**What tables of characters say.**

A table is kept as lines of text.  To find out something about all of its rows, the lines are taken
as the characters that spell them, and a set of code points is a number with one bit for each of
them.  A statement about thousands of rows is then one about a few numbers: two sets are disjoint if
no bit is left of both.

Main definitions:

* `Rows.Spelled` — lines and the characters that spell them;
* `Rows.points`, `Rows.ranges` — sets of code points.

Main results:

* `Rows.Spelled.read_eq` — the rows of lines are those of their characters;
* `Rows.testBit_points`, `Rows.testBit_ranges` — what these sets have in them;
* `Rows.testBit_eq_false_of_disjoint` — disjoint sets.
-/
import FirmwareCatalog.Url.Idna.Rows
import Mathlib.Data.List.Basic

set_option relaxedAutoImplicit false
set_option autoImplicit false

namespace FirmwareCatalog.Rows

/-! ### Rows -/

def readRow (s : List Char) : List Nat := ((Text.splitAt ' ' s).mapM (Text.ofDigits? 16)).getD []

def finish (v : Option Nat) (row : Option (List Nat)) : List Nat :=
  ((row.bind fun ns => v.map (· :: ns)).getD []).reverse

/-- The rows of a line in one go.  Of the row at hand the digits read so far have the value `v`, and
the numbers before them are `row`, last first; without a value or without a row there is nothing to
it.  The recursor stands here for recursion, as it is what takes the fewest steps to compute with. -/
noncomputable def scan (cs : List Char) : Option Nat → Option (List Nat) → List (List Nat) :=
  cs.rec (fun v row => [finish v row]) fun c _ rest v row =>
    match Text.digitValue? c with
    | some d => rest (some (Nat.add (Nat.mul (v.getD 0) 16) d)) row
    | none =>
      if c = ',' then finish v row :: rest none (some [])
      else rest none (if c = ' ' then row.bind fun ns => v.map (· :: ns) else none)

/-- The number of some digits behind those that have a value already. -/
def number? (v : Option Nat) (s : List Char) : Option Nat :=
  if v = none ∧ s = [] then none
  else
    s.foldlM
      (fun n c =>
        match Text.digitValue? c with
        | some d => if d < 16 then some (n * 16 + d) else none
        | none => none)
      (v.getD 0)

/-- What the row at hand becomes with the rest of its text. -/
def rowFrom (v : Option Nat) (row : Option (List Nat)) (s : List Char) : List Nat :=
  (row.bind fun ns =>
    match Text.splitAt ' ' s with
    | [] => none
    | p :: ps => do
      let n ← number? v p
      let ms ← ps.mapM (Text.ofDigits? 16)
      some (ns.reverse ++ n :: ms)).getD []

theorem ofDigits?_eq_number? (s : List Char) : Text.ofDigits? 16 s = number? none s := by
  cases s with
  | nil => rfl
  | cons c s => rfl

/-- No digit has a value beyond fifteen. -/
theorem lt_of_digitValue? {c : Char} {d : Nat} (h : Text.digitValue? c = some d) : d < 16 := by
  have hle {a b : Char} (hab : a ≤ b) : a.toNat ≤ b.toNat := hab
  rw [Text.digitValue?] at h
  split at h
  case isTrue hc =>
    have hhigh : c.toNat ≤ 57 := hle hc.2
    obtain rfl := Option.some.inj h
    show c.toNat - 48 < 16
    omega
  case isFalse =>
    split at h
    case isTrue hc =>
      have hhigh : c.toNat ≤ 102 := hle hc.2
      obtain rfl := Option.some.inj h
      show c.toNat - 97 + 10 < 16
      omega
    case isFalse =>
      split at h
      case isTrue hc =>
        have hhigh : c.toNat ≤ 70 := hle hc.2
        obtain rfl := Option.some.inj h
        show c.toNat - 65 + 10 < 16
        omega
      case isFalse => cases h

theorem number?_cons {c : Char} {d : Nat} (h : Text.digitValue? c = some d) (v : Option Nat)
    (s : List Char) : number? v (c :: s) = number? (some (v.getD 0 * 16 + d)) s := by
  simp [number?, h, lt_of_digitValue? h]

theorem number?_cons_of_none {c : Char} (h : Text.digitValue? c = none) (v : Option Nat)
    (s : List Char) : number? v (c :: s) = none := by
  simp [number?, h]

theorem number?_nil (v : Option Nat) : number? v [] = v := by
  cases v with
  | none => rfl
  | some n => rfl

theorem ne_of_digitValue? {c : Char} {d : Nat} (h : Text.digitValue? c = some d) :
    (c == ' ') = false ∧ (c == ',') = false := by
  rw [beq_eq_false_iff_ne, beq_eq_false_iff_ne]
  constructor
  · rintro rfl
    cases h
  · rintro rfl
    cases h

theorem splitAt_cons (sign c : Char) (s : List Char) : ∃ p ps, Text.splitAt sign s = p :: ps ∧
    Text.splitAt sign (c :: s) = if c == sign then [] :: p :: ps else (c :: p) :: ps := by
  obtain ⟨p, ps, hsplit⟩ := List.exists_cons_of_ne_nil (Text.splitWhere_ne_nil (· == sign) s)
  refine ⟨p, ps, hsplit, ?_⟩
  rw [Text.splitAt, Text.splitWhere, hsplit]

theorem rowFrom_nil (v : Option Nat) (row : Option (List Nat)) : rowFrom v row [] = finish v row := by
  cases row with
  | none => rfl
  | some ns =>
      cases v with
      | none => rfl
      | some n => simp [rowFrom, finish, Text.splitAt, Text.splitWhere, number?_nil]

theorem rowFrom_cons {c : Char} {d : Nat} (h : Text.digitValue? c = some d) (v : Option Nat)
    (row : Option (List Nat)) (s : List Char) :
    rowFrom v row (c :: s) = rowFrom (some (v.getD 0 * 16 + d)) row s := by
  obtain ⟨p, ps, hs, hcons⟩ := splitAt_cons ' ' c s
  rw [(ne_of_digitValue? h).1, if_neg Bool.false_ne_true] at hcons
  simp only [rowFrom, hs, hcons, number?_cons h]

/-- A blank ends a number. -/
theorem rowFrom_blank (v : Option Nat) (row : Option (List Nat)) (s : List Char) :
    rowFrom v row (' ' :: s) = rowFrom none (row.bind fun ns => v.map (· :: ns)) s := by
  obtain ⟨p, ps, hs, hcons⟩ := splitAt_cons ' ' ' ' s
  rw [beq_self_eq_true, if_pos rfl] at hcons
  cases row with
  | none => rfl
  | some ns =>
      cases v with
      | none => simp [rowFrom, hs, hcons, number?_nil]
      | some n =>
          simp only [rowFrom, hs, hcons, number?_nil, Option.bind_some, Option.map_some,
            List.mapM_cons, ofDigits?_eq_number?]
          cases number? none p with
          | none => rfl
          | some m =>
              cases ps.mapM (Text.ofDigits? 16) with
              | none => rfl
              | some ms => simp

theorem rowFrom_cons_of_none {c : Char} (h : Text.digitValue? c = none) (hblank : c ≠ ' ')
    (v : Option Nat) (row : Option (List Nat)) (s : List Char) :
    rowFrom v row (c :: s) = rowFrom none none s := by
  obtain ⟨p, ps, hs, hcons⟩ := splitAt_cons ' ' c s
  rw [beq_eq_false_iff_ne.2 hblank, if_neg Bool.false_ne_true] at hcons
  cases row with
  | none => rfl
  | some ns => simp [rowFrom, hcons, number?_cons_of_none h]

theorem rowFrom_start (s : List Char) : rowFrom none (some []) s = readRow s := by
  obtain ⟨p, ps, hs⟩ := List.exists_cons_of_ne_nil (Text.splitWhere_ne_nil (· == ' ') s)
  have hsplit : Text.splitAt ' ' s = p :: ps := hs
  simp only [rowFrom, readRow, hsplit, List.mapM_cons, ofDigits?_eq_number?]
  rfl

def readChars (cs : List Char) : List (List Nat) := (Text.splitAt ',' cs).map readRow

/-- **What is read in one go**: the row at hand, and the rows behind it. -/
theorem scan_eq (cs : List Char) : ∀ v row, ∃ p ps, Text.splitAt ',' cs = p :: ps ∧
    scan cs v row = rowFrom v row p :: ps.map readRow := by
  induction cs with
  | nil =>
      intro v row
      exact ⟨[], [], rfl, by rw [rowFrom_nil]; rfl⟩
  | cons c cs ih =>
      intro v row
      have hscan : scan (c :: cs) v row =
          match Text.digitValue? c with
          | some d => scan cs (some (v.getD 0 * 16 + d)) row
          | none =>
            if c = ',' then finish v row :: scan cs none (some [])
            else scan cs none (if c = ' ' then row.bind fun ns => v.map (· :: ns) else none) := rfl
      -- a comma begins a row of its own; anything else belongs to the first one
      obtain ⟨p, ps, hs, hcons⟩ := splitAt_cons ',' c cs
      have hrest (v : Option Nat) (row : Option (List Nat)) :
          scan cs v row = rowFrom v row p :: ps.map readRow := by
        obtain ⟨p', ps', hs', heq⟩ := ih v row
        obtain ⟨rfl, rfl⟩ := List.cons.inj (hs.symm.trans hs')
        exact heq
      rw [hscan]
      cases hdigit : Text.digitValue? c with
      | some d =>
          rw [(ne_of_digitValue? hdigit).2, if_neg Bool.false_ne_true] at hcons
          exact ⟨c :: p, ps, hcons, by rw [rowFrom_cons hdigit, ← hrest]⟩
      | none =>
          by_cases hcomma : c = ','
          · rw [hcomma, beq_self_eq_true, if_pos rfl] at hcons
            refine ⟨[], p :: ps, by rw [hcomma]; exact hcons, ?_⟩
            dsimp only
            rw [if_pos hcomma, hrest, rowFrom_start, rowFrom_nil, List.map_cons]
          · rw [beq_eq_false_iff_ne.2 hcomma, if_neg Bool.false_ne_true] at hcons
            refine ⟨c :: p, ps, hcons, ?_⟩
            dsimp only
            rw [if_neg hcomma, hrest]
            split
            case isTrue hblank => rw [hblank, rowFrom_blank]
            case isFalse hblank => rw [rowFrom_cons_of_none hdigit hblank]

/-- **The rows of a line can be read in one go.** -/
theorem readChars_eq_scan (cs : List Char) : readChars cs = scan cs none (some []) := by
  obtain ⟨p, ps, hs, heq⟩ := scan_eq cs none (some [])
  rw [heq, rowFrom_start, readChars, hs, List.map_cons]

/-! ### Lines -/

/-- Lines, each with the characters that spell it. -/
inductive Spelled : List String → List (List Char) → Prop
  | nil : Spelled [] []
  | cons (cs : List Char) {lines : List String} {css : List (List Char)} (h : Spelled lines css) :
      Spelled (String.ofList cs :: lines) (cs :: css)

/-- **The rows of lines are those of their characters.** -/
theorem Spelled.read_eq {lines : List String} {css : List (List Char)} (h : Spelled lines css) :
    read lines = css.flatMap fun cs => scan cs none (some []) := by
  induction h with
  | nil => rfl
  | cons cs _ ih =>
      rw [read, List.flatMap_cons, List.flatMap_cons, ← read, ih, readLine, String.toList_ofList,
        ← readChars_eq_scan]
      rfl

theorem Spelled.read {p : List (List Nat) → Prop} {lines : List String} {css : List (List Char)}
    (h : Spelled lines css) (hp : p (css.flatMap fun cs => scan cs none (some []))) :
    p (read lines) := by
  rw [h.read_eq]
  exact hp

/-! ### Sets of code points -/

/-- The set of the code points of a list.  It is made from the first one on, as lists mostly ascend:
the numbers on the way are short then. -/
def points (ns : List Nat) : Nat := ns.foldl (fun set n => set ||| 1 <<< n) 0

def range (first last : Nat) : Nat := (1 <<< (last + 1 - first) - 1) <<< first

/-- The set of the code points in the ranges of rows. -/
def ranges (rows : List (List Nat)) : Nat :=
  rows.foldl
    (fun set row =>
      match row with
      | first :: last :: _ => set ||| range first last
      | _ => set)
    0

/-- The set of a list has the code points of the list. -/
theorem testBit_points (ns : List Nat) (n : Nat) : (points ns).testBit n = true ↔ n ∈ ns := by
  have hfold (set : Nat) : (ns.foldl (fun set n => set ||| 1 <<< n) set).testBit n = true ↔
      set.testBit n = true ∨ n ∈ ns := by
    induction ns generalizing set with
    | nil => simp
    | cons m ns ih =>
        rw [List.foldl_cons, ih, Nat.testBit_or, Bool.or_eq_true, Nat.one_shiftLeft,
          Nat.testBit_two_pow, decide_eq_true_eq, List.mem_cons, eq_comm (a := m), or_assoc]
  rw [points, hfold, Nat.zero_testBit, Bool.false_eq_true, false_or]

theorem testBit_range (first last n : Nat) :
    (range first last).testBit n = (decide (first ≤ n) && decide (n ≤ last)) := by
  rw [range, Nat.testBit_shiftLeft, Nat.one_shiftLeft, Nat.testBit_two_pow_sub_one,
    Bool.eq_iff_iff]
  simp only [Bool.and_eq_true, decide_eq_true_eq]
  omega

/-- The set of rows has the characters that one of the ranges covers. -/
theorem testBit_ranges (rows : List (List Nat)) (c : Char) :
    (ranges rows).testBit c.toNat = covers rows c := by
  have hfold (set : Nat) : (rows.foldl
      (fun set row =>
        match row with
        | first :: last :: _ => set ||| range first last
        | _ => set)
      set).testBit c.toNat = (set.testBit c.toNat || covers rows c) := by
    induction rows generalizing set with
    | nil => simp [covers]
    | cons row rows ih =>
        rw [List.foldl_cons, ih, covers, covers, List.any_cons, ← Bool.or_assoc]
        rcases row with _ | ⟨first, _ | ⟨last, rest⟩⟩
        · rw [Bool.or_false]
        · rw [Bool.or_false]
        · rw [Nat.testBit_or, testBit_range]
  rw [ranges, hfold, Nat.zero_testBit, Bool.false_or]

/-- Nothing is in two disjoint sets. -/
theorem testBit_eq_false_of_disjoint {a b n : Nat} (h : a &&& b = 0) (hb : b.testBit n = true) :
    a.testBit n = false := by
  have hbit := congrArg (Nat.testBit · n) h
  simpa [hb] using hbit

end FirmwareCatalog.Rows
