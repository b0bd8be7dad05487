/-
**The values of variables.**

A variable of the environment holds text, but the text can be written as a value: a truth value, a
number, a text in double quotes, a character in single ones, a list in brackets, or a table in braces
with keys and values.  A text that is none of these as a whole stands for itself, without the blanks
around it.

Inside brackets and braces a text without quotes goes up to the next comma, bracket or brace.  Texts
in double quotes are those of TOML documents.

Main definitions:

* `VariableValue.number?` — the numbers;
* `VariableValue.key?` — a key of a table;
* `VariableValue.parse` — the value of a variable.
-/
import FirmwareCatalog.Settings.Datum
import FirmwareCatalog.Text.Blank
import FirmwareCatalog.Toml.Lexeme

set_option relaxedAutoImplicit false
set_option autoImplicit false

namespace FirmwareCatalog.VariableValue

/-! ### Numbers -/

def sign : List Char → Bool × List Char
  | '-' :: rest => (true, rest)
  | '+' :: rest => (false, rest)
  | s => (false, s)

/-- A whole number: without a minus sign it fits in 64 bits, with one it fits in 64 bits with a
sign. -/
def integer? (s : List Char) : Option Scalar := do
  let (negative, ds) := sign s
  let n ← Text.ofDigits? 10 ds
  if negative then
    if n ≤ 0x8000000000000000 then some (.signed (-(n : Int))) else none
  else if n < UInt64.size then some (.unsigned n)
  else none

/-- The exponent of a number, from its letter on. -/
def exponent? : List Char → Option Int
  | [] => some 0
  | c :: rest =>
    if c = 'e' ∨ c = 'E' then do
      let (negative, ds) := sign rest
      let n ← Text.ofDigits? 10 ds
      some (if negative then -(n : Int) else n)
    else none

/-- A number with a point.  Digits may be missing on one side of it. -/
def real? (s : List Char) : Option Scalar := do
  let (negative, s) := sign s
  let whole := s.takeWhile Char.isDigit
  match s.drop whole.length with
  | '.' :: rest =>
    let fraction := rest.takeWhile Char.isDigit
    let n ← Text.ofDigits? 10 (whole ++ fraction)
    let e ← exponent? (rest.drop fraction.length)
    some (.real (.signed negative (Magnitude.ofDecimal n (e - fraction.length))))
  | _ => none

def plain (s : List Char) : Scalar :=
  ((real? s).orElse fun _ => integer? s).getD (.text (String.ofList s))

/-! ### Values -/

def isAround (c : Char) : Bool := c == ' ' || (9 ≤ c.toNat && c.toNat ≤ 13 && c.toNat != 11)

def skip (s : List Char) : List Char := s.dropWhile isAround

def isEnd (c : Char) : Bool := [',', '[', ']', '\x7b', '\x7d'].contains c

/-- A key, perhaps in double quotes. -/
def key? : List Char → Option (List Char × List Char)
  | '"' :: rest => Toml.basic? rest
  | s =>
    let k := s.takeWhile Toml.isKeyChar
    if k.isEmpty then none else some (k, s.drop k.length)

mutual

/-- A value, with what may stand around it.  The first argument bounds the steps. -/
def value? : Nat → List Char → Option (Datum × List Char)
  | 0, _ => none
  | n + 1, s =>
    match skip s with
    | 't' :: 'r' :: 'u' :: 'e' :: rest => some (.scalar .environment (.bool true), skip rest)
    | 'f' :: 'a' :: 'l' :: 's' :: 'e' :: rest => some (.scalar .environment (.bool false), skip rest)
    | '\x7b' :: rest =>
      (entries? n rest).map fun (es, r) => (.table .environment es, skip r)
    | '[' :: rest =>
      (items? n rest).map fun (vs, r) => (.list .environment vs, skip r)
    | '"' :: rest =>
      (Toml.basic? rest).map fun (t, r) =>
        (.scalar .environment (.text (String.ofList t)), skip r)
    | '\'' :: rest =>
      match rest with
      | c :: '\'' :: r => some (.scalar .environment (.text (String.singleton c)), skip r)
      | _ => none
    | s =>
      let t := s.takeWhile fun c => !isEnd c
      some (.scalar .environment (plain (Text.trim t)), s.drop t.length)

/-- The values of a list up to its closing bracket. -/
def items? : Nat → List Char → Option (List Datum × List Char)
  | 0, _ => none
  | n + 1, s =>
    match s with
    | ']' :: rest => some ([], rest)
    | s => do
      let (v, rest) ← value? n s
      match rest with
      | ',' :: rest =>
        let (vs, rest) ← items? n rest
        some (v :: vs, rest)
      | ']' :: rest => some ([v], rest)
      | _ => none

/-- The keys and values of a table up to its closing brace.  Of a key that comes twice the later
value counts. -/
def entries? : Nat → List Char → Option (List (String × Datum) × List Char)
  | 0, _ => none
  | n + 1, s =>
    match s with
    | '\x7d' :: rest => some ([], rest)
    | s => do
      let (k, rest) ← key? (skip s)
      match skip rest with
      | '=' :: rest =>
        let (v, rest) ← value? n rest
        let key := String.ofList k
        match rest with
        | ',' :: rest =>
          let (es, rest) ← entries? n rest
          some (if (es.lookup key).isSome then es else (key, v) :: es, rest)
        | '\x7d' :: rest => some ([(key, v)], rest)
        | _ => none
      | _ => none

end

/-- The value of a variable. -/
def parse (text : String) : Datum :=
  let s := Text.trim text.toList
  match value? (2 * s.length + 2) s with
  | some (v, []) => v
  | _ => .scalar .environment (.text (String.ofList s))

end FirmwareCatalog.VariableValue
