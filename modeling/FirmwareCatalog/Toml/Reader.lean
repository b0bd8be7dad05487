/-
**Reading TOML documents.**

A document is a sequence of lines: headers of tables, headers of tables of which there may be more,
and keys with values.  Every line changes the table that is being read, and a line that contradicts
an earlier one makes the whole document unreadable.

Values may be nested up to a fixed depth.

Main definitions:

* `Toml.valueIn?` — one value;
* `Toml.Line`, `Toml.line?` — one line, `Toml.Draft.add?` — what it changes;
* `Toml.parse?` — the table of a document.
-/
import FirmwareCatalog.Toml.Numeral
import FirmwareCatalog.Toml.Value

set_option relaxedAutoImplicit false
set_option autoImplicit false

namespace FirmwareCatalog.Toml

/-! ### Keys with dots -/

def depthLimit : Nat := 80

/-- The parts of a key, with blanks around each; the first argument bounds their number. -/
def keyParts? : Nat → List Char → Option (List (List Char) × List Char)
  | 0, _ => none
  | n + 1, s => do
    let (k, rest) ← key? (skipBlanks s)
    match skipBlanks rest with
    | '.' :: rest =>
      let (ks, rest) ← keyParts? n rest
      some (k :: ks, rest)
    | rest => some ([k], rest)

def path? (s : List Char) : Option (List (List Char) × List Char) := keyParts? (depthLimit - 1) s

/-! ### Values -/

/-- A value that holds no others. -/
def scalar? (s : List Char) : Option (Toml × List Char) :=
  match s with
  | [] => none
  | c :: _ =>
    if c = '"' ∨ c = '\'' then (string? s).map fun (t, r) => (.string t, r)
    else
      match s with
      | 't' :: 'r' :: 'u' :: 'e' :: rest => some (.bool true, rest)
      | 'f' :: 'a' :: 'l' :: 's' :: 'e' :: rest => some (.bool false, rest)
      | s =>
        match date? s, real? s with
        | some rest, _ => some (.date, rest)
        | none, some (x, rest) => some (.real x, rest)
        | none, none => (integer? s).map fun (n, r) => (.integer n, r)

mutual

/-- One value.  The first argument bounds the steps, the second one the nesting. -/
def value? : Nat → Nat → List Char → Option (Toml × List Char)
  | 0, _, _ => none
  | n + 1, depth, s =>
    match s with
    | '[' :: rest =>
      if depth ≤ 1 then none
      else (items? n (depth - 1) rest).map fun (vs, r) => (.array vs, r)
    | '\x7b' :: rest =>
      if depth ≤ 1 then none
      else
        match skipBlanks rest with
        | '\x7d' :: r => some (.table .closed [], r)
        | rest => (members? n (depth - 1) [] rest).map fun (t, r) => (.table .closed t, r)
    | s => scalar? s

/-- The values of an array up to its closing bracket. -/
def items? : Nat → Nat → List Char → Option (List Toml × List Char)
  | 0, _, _ => none
  | n + 1, depth, s =>
    match skipLines s with
    | ']' :: rest => some ([], rest)
    | s => do
      let (v, rest) ← value? n depth s
      match skipLines rest with
      | ',' :: rest =>
        let (vs, rest) ← items? n depth rest
        some (v :: vs, rest)
      | ']' :: rest => some ([v], rest)
      | _ => none

/-- The keys and values between braces, added to those before them. -/
def members? : Nat → Nat → Table → List Char → Option (Table × List Char)
  | 0, _, _, _ => none
  | n + 1, depth, t, s => do
    let (path, rest) ← path? s
    let rest ← character? '=' rest
    let (v, rest) ← value? n depth (skipBlanks rest)
    let t ← Table.extend v path t
    match skipBlanks rest with
    | ',' :: rest => members? n depth t rest
    | '\x7d' :: rest => some (t, rest)
    | _ => none

end

/-- One value.  No value has more parts than characters. -/
def valueIn? (s : List Char) : Option (Toml × List Char) := value? (2 * s.length + 2) depthLimit s

/-! ### Lines -/

/-- What a line of a document says. -/
inductive Line where
  | header (path : List (List Char))
  | nextHeader (path : List (List Char))
  | pair (path : List (List Char)) (v : Toml)
  deriving Repr

/-- A line, and the text after it. -/
def line? (s : List Char) : Option (Line × List Char) :=
  match s with
  | '[' :: '[' :: rest => do
    let (path, rest) ← path? rest
    let rest ← character? ']' (← character? ']' rest)
    some (.nextHeader path, ← endOfLine? rest)
  | '[' :: rest => do
    let (path, rest) ← path? rest
    let rest ← character? ']' rest
    some (.header path, ← endOfLine? rest)
  | s => do
    let (path, rest) ← path? s
    let rest ← character? '=' rest
    let (v, rest) ← valueIn? (skipBlanks rest)
    some (.pair path v, ← endOfLine? rest)

/-- The lines of a text; the first argument bounds their number. -/
def linesUpTo? : Nat → List Char → Option (List Line)
  | 0, _ => none
  | n + 1, s =>
    match skipLines s with
    | [] => some []
    | s => do
      let (l, rest) ← line? s
      (linesUpTo? n rest).map (l :: ·)

def lines? (s : List Char) : Option (List Line) := linesUpTo? (s.length + 1) s

/-! ### Documents -/

/-- A document as far as it is read: its table, and the headers of the table that is being read. -/
structure Draft where
  table : Table
  path : List (List Char)

/-- A change to the table that a header names, seen from the tables above it. -/
def Draft.open? (d : Draft) (path : List (List Char))
    (enter : List Char → Table → Option Table) : Option Draft :=
  match path.getLast? with
  | none => none
  | some key => (Table.below (enter key) path.dropLast d.table).map fun t => ⟨t, path⟩

/-- What a line changes. -/
def Draft.add? (d : Draft) : Line → Option Draft
  | .header path => d.open? path Table.enter
  | .nextHeader path => d.open? path Table.enterNext
  | .pair path v => (Table.below (Table.extend v path) d.path d.table).map fun t => ⟨t, d.path⟩

def withoutMark (s : List Char) : List Char :=
  match s with
  | c :: rest => if c.toNat = 0xFEFF then rest else s
  | [] => []

/-- The table of a document, if it can be read. -/
def parse? (s : List Char) : Option Table := do
  let ls ← lines? (withoutMark s)
  let d ← ls.foldlM Draft.add? ⟨[], []⟩
  some d.table

end FirmwareCatalog.Toml
