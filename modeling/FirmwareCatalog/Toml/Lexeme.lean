/-
**The small parts of TOML documents.**

Blanks are spaces and tabs; lines end with a line feed, perhaps after a carriage return.  Comments
and texts have no control characters in them, tabs aside.  Each reader takes what it is named for
from the start of a text and gives the text after it.

Main definitions:

* `Toml.skipBlanks`, `Toml.newline?`, `Toml.endOfLine?`, `Toml.skipLines` — what stands between;
* `Toml.string?` — texts in one or three quotes of either kind;
* `Toml.key?` — one key.
-/
import FirmwareCatalog.Text.Pieces

set_option relaxedAutoImplicit false
set_option autoImplicit false

namespace FirmwareCatalog.Toml

/-! ### Blanks, comments and lines -/

def isBlank (c : Char) : Bool := c == ' ' || c == '\t'

/-- The text after its blanks. -/
def skipBlanks (s : List Char) : List Char := s.dropWhile isBlank

def isText (c : Char) : Bool := c == '\t' || (0x20 ≤ c.toNat && c.toNat != 0x7F)

/-- The text after the end of a line. -/
def newline? : List Char → Option (List Char)
  | '\n' :: rest => some rest
  | '\r' :: '\n' :: rest => some rest
  | _ => none

def skipComment : List Char → List Char
  | '#' :: rest => rest.dropWhile isText
  | s => s

/-- The text after blanks, a comment, and the end of the line or of the document. -/
def endOfLine? (s : List Char) : Option (List Char) :=
  match skipComment (skipBlanks s) with
  | [] => some []
  | rest => newline? rest

/-- The text after blanks, line ends and comments; the first argument says that the text starts in a
comment. -/
def skipLinesFrom : Bool → List Char → List Char
  | _, [] => []
  | _, '\n' :: rest => skipLinesFrom false rest
  | _, '\r' :: '\n' :: rest => skipLinesFrom false rest
  | true, c :: rest => if isText c then skipLinesFrom true rest else c :: rest
  | false, c :: rest =>
    if isBlank c then skipLinesFrom false rest
    else if c = '#' then skipLinesFrom true rest
    else c :: rest

/-- The text after blanks, line ends and comments. -/
def skipLines (s : List Char) : List Char := skipLinesFrom false s

/-! ### Texts -/

def codePoint? (digits : List Char) : Option Char := do
  let n ← Text.ofDigits? 16 digits
  if n < 0x110000 ∧ ¬(0xD800 ≤ n ∧ n < 0xE000) then some (Char.ofNat n) else none

/-- The character of an escape with one letter. -/
def escaped? (c : Char) : Option Char :=
  match c with
  | 'b' => some (Char.ofNat 8)
  | 't' => some '\t'
  | 'n' => some '\n'
  | 'f' => some (Char.ofNat 12)
  | 'r' => some '\r'
  | '"' => some '"'
  | '\\' => some '\\'
  | _ => none

/-- A text in double quotes, after the first of them. -/
def basic? : List Char → Option (List Char × List Char)
  | [] => none
  | '"' :: rest => some ([], rest)
  | '\\' :: 'u' :: a :: b :: c :: d :: rest => do
    let x ← codePoint? [a, b, c, d]
    (basic? rest).map fun (s, r) => (x :: s, r)
  | '\\' :: 'U' :: a :: b :: c :: d :: e :: f :: g :: h :: rest => do
    let x ← codePoint? [a, b, c, d, e, f, g, h]
    (basic? rest).map fun (s, r) => (x :: s, r)
  | '\\' :: c :: rest => do
    let x ← escaped? c
    (basic? rest).map fun (s, r) => (x :: s, r)
  | c :: rest => if isText c then (basic? rest).map fun (s, r) => (c :: s, r) else none

def literal? : List Char → Option (List Char × List Char)
  | [] => none
  | '\'' :: rest => some ([], rest)
  | c :: rest => if isText c then (literal? rest).map fun (s, r) => (c :: s, r) else none

def closingQuotes (q : Char) (s : List Char) : List Char × List Char :=
  let extra := (s.take 2).takeWhile (· == q)
  (extra, s.drop extra.length)

def restIsBlank (s : List Char) : Bool := (newline? (skipBlanks s)).isSome

/-- A text in three double quotes, after them.  A backslash at the end of a line drops all blanks and
line ends that follow; the first argument says that they are being dropped. -/
def longBasic? : Bool → List Char → Option (List Char × List Char)
  | _, [] => none
  | _, '"' :: '"' :: '"' :: rest => some (closingQuotes '"' rest)
  | skip, '\n' :: rest =>
    (longBasic? skip rest).map fun (s, r) => (if skip then s else '\n' :: s, r)
  | skip, '\r' :: '\n' :: rest =>
    (longBasic? skip rest).map fun (s, r) => (if skip then s else '\n' :: s, r)
  | _, '\\' :: 'u' :: a :: b :: c :: d :: rest => do
    let x ← codePoint? [a, b, c, d]
    (longBasic? false rest).map fun (s, r) => (x :: s, r)
  | _, '\\' :: 'U' :: a :: b :: c :: d :: e :: f :: g :: h :: rest => do
    let x ← codePoint? [a, b, c, d, e, f, g, h]
    (longBasic? false rest).map fun (s, r) => (x :: s, r)
  | _, '\\' :: c :: rest =>
    if restIsBlank (c :: rest) then longBasic? true (c :: rest)
    else do
      let x ← escaped? c
      (longBasic? false rest).map fun (s, r) => (x :: s, r)
  | skip, c :: rest =>
    if skip && isBlank c then longBasic? true rest
    else if isText c then (longBasic? false rest).map fun (s, r) => (c :: s, r)
    else none

/-- A text in three single quotes, after them. -/
def longLiteral? : List Char → Option (List Char × List Char)
  | [] => none
  | '\'' :: '\'' :: '\'' :: rest => some (closingQuotes '\'' rest)
  | '\n' :: rest => (longLiteral? rest).map fun (s, r) => ('\n' :: s, r)
  | '\r' :: '\n' :: rest => (longLiteral? rest).map fun (s, r) => ('\n' :: s, r)
  | c :: rest => if isText c then (longLiteral? rest).map fun (s, r) => (c :: s, r) else none

def skipNewline (s : List Char) : List Char := (newline? s).getD s

/-- A text in quotes.  The end of a line right after three quotes does not count. -/
def string? : List Char → Option (List Char × List Char)
  | '"' :: '"' :: '"' :: rest => longBasic? false (skipNewline rest)
  | '"' :: rest => basic? rest
  | '\'' :: '\'' :: '\'' :: rest => longLiteral? (skipNewline rest)
  | '\'' :: rest => literal? rest
  | _ => none

/-! ### Keys -/

def isKeyChar (c : Char) : Bool := c.isAlphanum || c == '-' || c == '_'

/-- One key, perhaps in single or double quotes. -/
def key? : List Char → Option (List Char × List Char)
  | '"' :: rest => basic? rest
  | '\'' :: rest => literal? rest
  | s =>
    let k := s.takeWhile isKeyChar
    if k.isEmpty then none else some (k, s.drop k.length)

end FirmwareCatalog.Toml
