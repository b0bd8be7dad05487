/-
**Documents with whole numbers of any size.**

A document is unreadable for one of two reasons: it is not written by the rules, or one of its whole
numbers does not fit in 64 bits with a sign.  Here the reader of whole numbers is a parameter of the
reader of documents.  With the one that knows no bound it says which number stands where, also in a
document that is unreadable for the second reason.

Main definitions:

* `Toml.valueWith?`, `Toml.lineWith?`, `Toml.parseWith?` — documents, given how whole numbers are
  read;
* `Toml.unbounded?` — whole numbers of any size.

Main results:

* `Toml.parseWith?_integer?` — with bounded numbers, this is the reader of documents;
* `Toml.parseWith?_eq_some_iff` — fewer numbers, and the documents without the others;
* `Toml.parse?_iff_unbounded` — **what is read is what is written by the rules and in range**.
-/
import FirmwareCatalog.Proofs.Toml.Kept

set_option relaxedAutoImplicit false
set_option autoImplicit false

namespace FirmwareCatalog.Toml

/-! ### Documents, given how whole numbers are read -/

section Reader

variable (number? : List Char → Option (Int × List Char))

/-- A value that holds no others. -/
def scalarWith? (s : List Char) : Option (Toml × List Char) :=
  match s with
  | [] => none
  | c :: _ =>
    if c = '"' ∨ c = '\'' then (string? s).map fun (t, r) => (.string t, r)
    else
      match s with
      | 't' :: 'r' :: 'u' :: 'e' :: rest => some (.bool true, rest)
      | 'f' :: 'a' :: 'l' :: 's' :: 'e' :: rest => some (.bool false, rest)
      | s =>
        match date? s, real? s with
        | some rest, _ => some (.date, rest)
        | none, some (x, rest) => some (.real x, rest)
        | none, none => (number? s).map fun (n, r) => (.integer n, r)

mutual

/-- One value.  The numbers bound the steps and the nesting. -/
def valueWith? : Nat → Nat → List Char → Option (Toml × List Char)
  | 0, _, _ => none
  | n + 1, depth, s =>
    match s with
    | '[' :: rest =>
      if depth ≤ 1 then none
      else (itemsWith? n (depth - 1) rest).map fun (vs, r) => (.array vs, r)
    | '\x7b' :: rest =>
      if depth ≤ 1 then none
      else
        match skipBlanks rest with
        | '\x7d' :: r => some (.table .closed [], r)
        | rest => (membersWith? n (depth - 1) [] rest).map fun (t, r) => (.table .closed t, r)
    | s => scalarWith? number? s

/-- The values of an array up to its closing bracket. -/
def itemsWith? : Nat → Nat → List Char → Option (List Toml × List Char)
  | 0, _, _ => none
  | n + 1, depth, s =>
    match skipLines s with
    | ']' :: rest => some ([], rest)
    | s => do
      let (v, rest) ← valueWith? n depth s
      match skipLines rest with
      | ',' :: rest =>
        let (vs, rest) ← itemsWith? n depth rest
        some (v :: vs, rest)
      | ']' :: rest => some ([v], rest)
      | _ => none

/-- The keys and values between braces, added to those before them. -/
def membersWith? : Nat → Nat → Table → List Char → Option (Table × List Char)
  | 0, _, _, _ => none
  | n + 1, depth, t, s => do
    let (path, rest) ← path? s
    let rest ← character? '=' rest
    let (v, rest) ← valueWith? n depth (skipBlanks rest)
    let t ← Table.extend v path t
    match skipBlanks rest with
    | ',' :: rest => membersWith? n depth t rest
    | '\x7d' :: rest => some (t, rest)
    | _ => none

end

def valueInWith? (s : List Char) : Option (Toml × List Char) :=
  valueWith? number? (2 * s.length + 2) depthLimit s

/-- A line, and the text after it. -/
def lineWith? (s : List Char) : Option (Line × List Char) :=
  match s with
  | '[' :: '[' :: rest => do
    let (path, rest) ← path? rest
    let rest ← character? ']' (← character? ']' rest)
    some (.nextHeader path, ← endOfLine? rest)
  | '[' :: rest => do
    let (path, rest) ← path? rest
    let rest ← character? ']' rest
    some (.header path, ← endOfLine? rest)
  | s => do
    let (path, rest) ← path? s
    let rest ← character? '=' rest
    let (v, rest) ← valueInWith? number? (skipBlanks rest)
    some (.pair path v, ← endOfLine? rest)

/-- The lines of a text; the first argument bounds their number. -/
def linesWith? : Nat → List Char → Option (List Line)
  | 0, _ => none
  | n + 1, s =>
    match skipLines s with
    | [] => some []
    | s => do
      let (l, rest) ← lineWith? number? s
      (linesWith? n rest).map (l :: ·)

/-- The table of a document. -/
def parseWith? (s : List Char) : Option Table := do
  let ls ← linesWith? number? ((withoutMark s).length + 1) (withoutMark s)
  let d ← ls.foldlM Draft.add? ⟨[], []⟩
  some d.table

end Reader

/-! #### The reader of documents -/

theorem scalarWith?_integer? : scalarWith? integer? = scalar? := rfl

/-- With bounded numbers, values are read as they are in documents. -/
theorem readWith?_integer? (n : Nat) :
    valueWith? integer? n = value? n ∧ itemsWith? integer? n = items? n ∧
      membersWith? integer? n = members? n := by
  induction n with
  | zero =>
      refine ⟨?_, ?_, ?_⟩
      · funext depth s
        rfl
      · funext depth s
        rfl
      · funext depth t s
        rfl
  | succ n ih =>
      obtain ⟨hvalue, hitems, hmembers⟩ := ih
      refine ⟨?_, ?_, ?_⟩
      · funext depth s
        unfold value?
        rw [← hitems, ← hmembers, ← scalarWith?_integer?]
        rfl
      · funext depth s
        unfold items?
        rw [← hvalue, ← hitems]
        rfl
      · funext depth t s
        unfold members?
        rw [← hvalue, ← hmembers]
        rfl

theorem lineWith?_integer? : lineWith? integer? = line? := by
  have hvalue : valueInWith? integer? = valueIn? := by
    funext s
    rw [valueInWith?, (readWith?_integer? _).1, valueIn?]
  funext s
  unfold line?
  rw [← hvalue]
  rfl

theorem linesWith?_integer? (n : Nat) : linesWith? integer? n = linesUpTo? n := by
  induction n with
  | zero =>
      funext s
      rfl
  | succ n ih =>
      funext s
      unfold linesUpTo?
      rw [← ih, ← lineWith?_integer?]
      rfl

/-- **With bounded numbers, this is the reader of documents.** -/
theorem parseWith?_integer? : parseWith? integer? = parse? := by
  funext s
  unfold parseWith? parse? lines?
  rw [linesWith?_integer?]

/-! ### Fewer numbers -/

/-! #### Steps of two readers -/

section Steps

variable {α β : Type} {few all : Option α} {f g : α → Option β} {P : α → Prop} {R Q : Prop} {b : β}

theorem bind_iff_of_same {o : Option α}
    (h : ∀ a, o = some a → (f a = some b ∧ R ↔ g a = some b ∧ Q)) :
    o.bind f = some b ∧ R ↔ o.bind g = some b ∧ Q := by
  cases o with
  | none => simp
  | some a => exact h a rfl

/-- They go on alike after a step that one of them takes under a condition. -/
theorem bind_iff_of_fewer (hstep : ∀ a, few = some a ↔ all = some a ∧ P a)
    (h : ∀ a, f a = some b ∧ P a ∧ R ↔ g a = some b ∧ Q) :
    few.bind f = some b ∧ R ↔ all.bind g = some b ∧ Q := by
  rw [Option.bind_eq_some_iff, Option.bind_eq_some_iff]
  constructor
  · rintro ⟨⟨a, ha, hb⟩, hR⟩
    obtain ⟨ha, hP⟩ := (hstep a).1 ha
    obtain ⟨hb, hQ⟩ := (h a).1 ⟨hb, hP, hR⟩
    exact ⟨⟨a, ha, hb⟩, hQ⟩
  · rintro ⟨⟨a, ha, hb⟩, hQ⟩
    obtain ⟨hb, hP, hR⟩ := (h a).2 ⟨hb, hQ⟩
    exact ⟨⟨a, (hstep a).2 ⟨ha, hP⟩, hb⟩, hR⟩

theorem some_iff_of_iff {a : β} (h : a = b → (R ↔ Q)) :
    some a = some b ∧ R ↔ some a = some b ∧ Q :=
  and_congr_right fun hsame => h (Option.some.inj hsame)

/-- A value made of what was read is in range exactly if that is. -/
theorem map_iff_inRange {few all : Option (α × List Char)} {make : α → Toml} {v : Toml}
    {r : List Char} (hstep : ∀ a r, few = some (a, r) ↔ all = some (a, r) ∧ P a)
    (hmake : ∀ a, (make a).InRange ↔ P a) :
    few.map (fun p => (make p.1, p.2)) = some (v, r) ↔
      all.map (fun p => (make p.1, p.2)) = some (v, r) ∧ v.InRange := by
  rw [Option.map_eq_some_iff, Option.map_eq_some_iff]
  constructor
  · rintro ⟨⟨a, rest⟩, ha, heq⟩
    obtain ⟨ha, hP⟩ := (hstep a rest).1 ha
    cases heq
    exact ⟨⟨_, ha, rfl⟩, (hmake a).2 hP⟩
  · rintro ⟨⟨⟨a, rest⟩, ha, heq⟩, hv⟩
    cases heq
    exact ⟨_, (hstep a _).2 ⟨ha, (hmake a).1 hv⟩, rfl⟩

end Steps

/-- Values, items and members are read with the numbers that fit if they are in range.  Members are
added to a table, which has to be in range before. -/
structure ReadsFewer (few? all? : List Char → Option (Int × List Char)) (n : Nat) : Prop where
  value : ∀ depth s v r, valueWith? few? n depth s = some (v, r) ↔
    valueWith? all? n depth s = some (v, r) ∧ v.InRange
  items : ∀ depth s vs r, itemsWith? few? n depth s = some (vs, r) ↔
    itemsWith? all? n depth s = some (vs, r) ∧ ∀ v ∈ vs, v.InRange
  members : ∀ depth t s t' r, membersWith? few? n depth t s = some (t', r) ∧ t.InRange ↔
    membersWith? all? n depth t s = some (t', r) ∧ t'.InRange

section Fewer

variable {few? all? : List Char → Option (Int × List Char)}

/-- An item that is in range goes in front of the others. -/
theorem ReadsFewer.items_succ {n : Nat} (h : ReadsFewer few? all? n) (depth : Nat) (s : List Char)
    (vs : List Toml) (r : List Char) : itemsWith? few? (n + 1) depth s = some (vs, r) ↔
      itemsWith? all? (n + 1) depth s = some (vs, r) ∧ ∀ v ∈ vs, v.InRange := by
  unfold itemsWith?
  split
  · refine (and_iff_left_of_imp fun h => ?_).symm
    cases h
    exact List.forall_mem_nil _
  · refine (and_iff_left trivial).symm.trans (bind_iff_of_fewer (P := fun p => p.1.InRange)
      (fun p => h.value _ _ p.1 p.2) fun p => ?_)
    obtain ⟨v, rest⟩ := p
    dsimp only
    split
    · refine bind_iff_of_fewer (P := fun q : List Toml × List Char => ∀ w ∈ q.1, w.InRange)
        (fun q => h.items _ _ q.1 q.2) fun q => some_iff_of_iff fun hsame => ?_
      cases hsame
      simp [and_comm]
    · refine some_iff_of_iff fun hsame => ?_
      cases hsame
      simp
    · simp

/-- A member extends the table by its value, and leaves it in range exactly if both are. -/
theorem ReadsFewer.members_succ {n : Nat} (h : ReadsFewer few? all? n) (depth : Nat) (t : Table)
    (s : List Char) (t' : Table) (r : List Char) :
    membersWith? few? (n + 1) depth t s = some (t', r) ∧ t.InRange ↔
      membersWith? all? (n + 1) depth t s = some (t', r) ∧ t'.InRange := by
  unfold membersWith?
  refine bind_iff_of_same fun p _ => bind_iff_of_same fun s' _ => ?_
  refine bind_iff_of_fewer (P := fun p => p.1.InRange) (fun p => h.value _ _ p.1 p.2) fun p => ?_
  refine bind_iff_of_same fun u hu => ?_
  rw [← Table.inRange_extend_iff hu]
  split
  · exact h.members _ _ _ _ _
  · refine some_iff_of_iff fun hsame => ?_
    cases hsame
    exact Iff.rfl
  · simp

variable (hfew : ∀ s r n, few? s = some (n, r) ↔ all? s = some (n, r) ∧ fits n = true)

include hfew

/-- A value that holds no others is read with the numbers that fit if it is in range. -/
theorem scalarWith?_eq_some_iff {s r : List Char} {v : Toml} :
    scalarWith? few? s = some (v, r) ↔ scalarWith? all? s = some (v, r) ∧ v.InRange := by
  have hsame {o : Option (Toml × List Char)} (h : o = some (v, r) → v.InRange) :
      o = some (v, r) ↔ o = some (v, r) ∧ v.InRange := (and_iff_left_of_imp h).symm
  unfold scalarWith?
  split
  · exact hsame fun h => by cases h
  · split
    · refine hsame fun h => ?_
      obtain ⟨⟨t, rest⟩, -, h⟩ := Option.map_eq_some_iff.1 h
      cases h
      exact .string t
    · split
      · refine hsame fun h => ?_
        cases h
        exact .bool true
      · refine hsame fun h => ?_
        cases h
        exact .bool false
      · split
        · refine hsame fun h => ?_
          cases h
          exact .date
        · refine hsame fun h => ?_
          cases h
          exact .real _
        · refine map_iff_inRange (fun n r => hfew _ r n) fun n => ⟨fun h => ?_, .integer⟩
          cases h with
          | integer h => exact h

/-- A value is an array of items, a table of members, or holds no others. -/
theorem ReadsFewer.value_succ {n : Nat} (h : ReadsFewer few? all? n) (depth : Nat) (s : List Char)
    (v : Toml) (r : List Char) : valueWith? few? (n + 1) depth s = some (v, r) ↔
      valueWith? all? (n + 1) depth s = some (v, r) ∧ v.InRange := by
  unfold valueWith?
  split
  · split
    · simp
    · exact map_iff_inRange (fun vs r => h.items _ _ vs r) fun vs => inRange_array_iff
  · split
    · simp
    · split
      · refine (and_iff_left_of_imp fun h => ?_).symm
        cases h
        exact .table Table.inRange_nil
      · refine map_iff_inRange (fun t r => ?_) fun t => inRange_table_iff
        -- the members are added to a table with nothing in it, which is in range
        rw [← h.members]
        exact (and_iff_left Table.inRange_nil).symm
  · exact scalarWith?_eq_some_iff hfew

/-- **The two readers go on alike for any number of steps.** -/
theorem readsFewer (n : Nat) : ReadsFewer few? all? n := by
  induction n with
  | zero =>
      refine ⟨?_, ?_, ?_⟩
      · intro depth s v r
        simp [valueWith?]
      · intro depth s vs r
        simp [itemsWith?]
      · intro depth t s t' r
        simp [membersWith?]
  | succ n ih => exact ⟨ih.value_succ hfew, ih.items_succ, ih.members_succ⟩

/-- A line is read with the numbers that fit if what it brings is in range. -/
theorem lineWith?_eq_some_iff {s r : List Char} {l : Line} :
    lineWith? few? s = some (l, r) ↔ lineWith? all? s = some (l, r) ∧ l.InRange := by
  unfold lineWith?
  split
  · refine (and_iff_left_of_imp fun h => ?_).symm
    obtain ⟨p, -, h⟩ := Option.bind_eq_some_iff.1 h
    obtain ⟨s₁, -, h⟩ := Option.bind_eq_some_iff.1 h
    obtain ⟨s₂, -, h⟩ := Option.bind_eq_some_iff.1 h
    obtain ⟨s₃, -, h⟩ := Option.bind_eq_some_iff.1 h
    cases h
    trivial
  · refine (and_iff_left_of_imp fun h => ?_).symm
    obtain ⟨p, -, h⟩ := Option.bind_eq_some_iff.1 h
    obtain ⟨s₁, -, h⟩ := Option.bind_eq_some_iff.1 h
    obtain ⟨s₂, -, h⟩ := Option.bind_eq_some_iff.1 h
    cases h
    trivial
  · refine (and_iff_left trivial).symm.trans
      (bind_iff_of_same fun p _ => bind_iff_of_same fun s' _ => ?_)
    have hvalue (p : Toml × List Char) : valueInWith? few? (skipBlanks s') = some p ↔
        valueInWith? all? (skipBlanks s') = some p ∧ p.1.InRange :=
      (readsFewer hfew _).value _ _ p.1 p.2
    refine bind_iff_of_fewer hvalue fun p => ?_
    refine bind_iff_of_same fun rest _ => some_iff_of_iff fun hsame => ?_
    cases hsame
    exact and_iff_left trivial

/-- So are all lines of a text. -/
theorem linesWith?_eq_some_iff {n : Nat} {s : List Char} {ls : List Line} :
    linesWith? few? n s = some ls ↔ linesWith? all? n s = some ls ∧ ∀ l ∈ ls, l.InRange := by
  induction n generalizing s ls with
  | zero => simp [linesWith?]
  | succ n ih =>
      unfold linesWith?
      split
      · refine (and_iff_left_of_imp fun h => ?_).symm
        cases h
        exact List.forall_mem_nil _
      · refine (and_iff_left trivial).symm.trans
          (bind_iff_of_fewer (P := fun p => p.1.InRange)
            (fun p => lineWith?_eq_some_iff hfew) fun p => ?_)
        obtain ⟨l, rest⟩ := p
        dsimp only
        rw [Option.map_eq_bind, Option.map_eq_bind]
        refine bind_iff_of_fewer (fun _ => ih) fun ls' => some_iff_of_iff fun hsame => ?_
        cases hsame
        simp [and_comm]

/-- **A document is read with the numbers that fit if it is in range.** -/
theorem parseWith?_eq_some_iff {s : List Char} {t : Table} :
    parseWith? few? s = some t ↔ parseWith? all? s = some t ∧ t.InRange := by
  unfold parseWith?
  refine (and_iff_left trivial).symm.trans
    (bind_iff_of_fewer (fun _ => linesWith?_eq_some_iff hfew) fun ls => ?_)
  refine bind_iff_of_same fun d hd => some_iff_of_iff fun hsame => ?_
  rw [← hsame, Draft.inRange_foldlM_iff hd]
  exact and_congr_right fun _ => (iff_true_intro Table.inRange_nil).symm

end Fewer

/-! ### Numbers of any size -/

def unboundedIn? (base : Nat) (s : List Char) : Option (Int × List Char) :=
  (digits? (isDigitOf base) s).map fun (ds, rest) => ((value base ds : Int), rest)

/-- A whole number of any size. -/
def unbounded? : List Char → Option (Int × List Char)
  | '0' :: 'x' :: rest => unboundedIn? 16 rest
  | '0' :: 'o' :: rest => unboundedIn? 8 rest
  | '0' :: 'b' :: rest => unboundedIn? 2 rest
  | s => do
    let (negative, s) := sign s
    let (ds, rest) ← wholeDigits? s
    some (if negative then -(value 10 ds : Int) else value 10 ds, rest)

/-- A whole number in a base is read if it fits. -/
theorem based?_eq_some_iff {base : Nat} {s r : List Char} {n : Int} :
    based? base s = some (n, r) ↔ unboundedIn? base s = some (n, r) ∧ fits n = true := by
  constructor
  · intro h
    obtain ⟨⟨ds, rest⟩, hds, h⟩ := Option.bind_eq_some_iff.1 h
    obtain ⟨hfits, h⟩ := Option.ite_none_right_eq_some.1 h
    cases h
    exact ⟨Option.map_eq_some_iff.2 ⟨_, hds, rfl⟩, hfits⟩
  · rintro ⟨h, hfits⟩
    obtain ⟨⟨ds, rest⟩, hds, h⟩ := Option.map_eq_some_iff.1 h
    cases h
    exact Option.bind_eq_some_iff.2 ⟨_, hds, if_pos hfits⟩

/-- **A whole number is read if it fits.** -/
theorem integer?_eq_some_iff (s r : List Char) (n : Int) :
    integer? s = some (n, r) ↔ unbounded? s = some (n, r) ∧ fits n = true := by
  unfold integer?
  split
  · exact based?_eq_some_iff
  · exact based?_eq_some_iff
  · exact based?_eq_some_iff
  · rename_i hhex hoctal hbinary
    rw [unbounded?]
    · constructor
      · intro h
        obtain ⟨⟨ds, rest⟩, hds, h⟩ := Option.bind_eq_some_iff.1 h
        obtain ⟨hfits, h⟩ := Option.ite_none_right_eq_some.1 h
        cases h
        exact ⟨Option.bind_eq_some_iff.2 ⟨_, hds, rfl⟩, hfits⟩
      · rintro ⟨h, hfits⟩
        obtain ⟨⟨ds, rest⟩, hds, h⟩ := Option.bind_eq_some_iff.1 h
        cases h
        exact Option.bind_eq_some_iff.2 ⟨_, hds, if_pos hfits⟩
    · exact hhex
    · exact hoctal
    · exact hbinary

theorem valueIn?_iff_unbounded {s r : List Char} {v : Toml} :
    valueIn? s = some (v, r) ↔ valueInWith? unbounded? s = some (v, r) ∧ v.InRange := by
  rw [valueIn?, ← (readWith?_integer? _).1]
  exact (readsFewer integer?_eq_some_iff _).value _ _ v r

/-- **What is read is what is written by the rules and in range.** -/
theorem parse?_iff_unbounded {s : List Char} {t : Table} :
    parse? s = some t ↔ parseWith? unbounded? s = some t ∧ t.InRange := by
  rw [← parseWith?_integer?]
  exact parseWith?_eq_some_iff integer?_eq_some_iff

theorem parse?_inRange {s : List Char} {t : Table} (h : parse? s = some t) : t.InRange :=
  (parse?_iff_unbounded.1 h).2

end FirmwareCatalog.Toml
