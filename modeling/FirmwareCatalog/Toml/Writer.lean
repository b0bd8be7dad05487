/-
**Writing texts in TOML.**

A text can be written in four ways: with double quotes or with single ones, one or three of each.
Between double quotes characters can be escaped, between single ones they cannot.  The way is chosen
so that as little as possible has to be escaped: nothing at all between one pair of double quotes, or
else between single quotes, or else between three of either; and only where control characters or
long runs of quotes leave no other way are escapes used.

Main definitions:

* `Toml.Quoting` — the four ways, `Toml.Quoting.choose` — the one for a text;
* `Toml.quote` — a text as it is written.
-/

set_option relaxedAutoImplicit false
set_option autoImplicit false

namespace FirmwareCatalog.Toml

/-! ### The ways to write a text -/

/-- The four ways to write a text. -/
inductive Quoting where
  | basic
  | literal
  | longBasic
  | longLiteral
  deriving DecidableEq, Repr

def isControl (c : Char) : Bool :=
  (c.toNat < 0x20 && c != '\t' && c != '\n') || c.toNat == 0x7F

def longestRun (q : Char) : Nat → List Char → Nat
  | run, [] => run
  | run, c :: rest => if c = q then longestRun q (run + 1) rest else max run (longestRun q 0 rest)

/-- The way to write a text. -/
def Quoting.choose (s : List Char) : Quoting :=
  let control := s.any isControl
  let escape := s.contains '\\'
  let newline := s.contains '\n'
  let double := longestRun '"' 0 s
  let single := longestRun '\'' 0 s
  if !control && !escape && !newline && double == 0 then .basic
  else if !control && !newline && single == 0 then .literal
  else if !control && !escape && double ≤ 2 then .longBasic
  else if !control && single ≤ 2 then .longLiteral
  else if newline then .longBasic
  else .basic

def Quoting.isLong : Quoting → Bool
  | .longBasic | .longLiteral => true
  | .basic | .literal => false

/-- The quotes before and after a text. -/
def Quoting.delimiter : Quoting → List Char
  | .basic => ['"']
  | .literal => ['\'']
  | .longBasic => ['"', '"', '"']
  | .longLiteral => ['\'', '\'', '\'']

/-! ### Escapes -/

def hexDigit (n : Nat) : Char := (Nat.digitChar (n % 16)).toUpper

/-- The escape of a character, if it needs one whatever stands around it. -/
def escape? (long : Bool) (c : Char) : Option (List Char) :=
  let n := c.toNat
  if n = 8 then some ['\\', 'b']
  else if n = 9 then some ['\\', 't']
  else if n = 10 then (if long then none else some ['\\', 'n'])
  else if n = 12 then some ['\\', 'f']
  else if n = 13 then some ['\\', 'r']
  else if c = '\\' then some ['\\', '\\']
  else if n < 0x20 ∨ n = 0x7F then some ['\\', 'u', '0', '0', hexDigit (n / 16), hexDigit n]
  else none

/-- A text between double quotes.  Between three of them runs of up to two stand for themselves; the
first number counts the run before the text. -/
def escaped (long : Bool) : Nat → List Char → List Char
  | _, [] => []
  | run, c :: rest =>
    if c = '"' then
      if run < (if long then 2 else 0) then '"' :: escaped long (run + 1) rest
      else '\\' :: '"' :: escaped long 0 rest
    else
      match escape? long c with
      | some e => e ++ escaped long 0 rest
      | none => c :: escaped long 0 rest

/-- The content of a text as it is written. -/
def Quoting.content (q : Quoting) (s : List Char) : List Char :=
  match q with
  | .basic => escaped false 0 s
  | .longBasic => escaped true 0 s
  | .literal | .longLiteral => s

/-- A text as it is written.  One that goes over several lines begins on a line of its own. -/
def quote (s : List Char) : List Char :=
  let q := Quoting.choose s
  q.delimiter ++ (if q.isLong && s.contains '\n' then ['\n'] else []) ++ q.content s ++ q.delimiter

end FirmwareCatalog.Toml
