/-
**Numbers and dates in TOML documents.**

Digits may be separated by single underscores.  A whole number has no zeros before it, may be written
in base 16, 8 or 2, and fits in 64 bits with a sign.  A number with a fraction or an exponent, and the
two words for what is no number and what is infinite, are binary64 numbers; one that is too large is
no number of the document unless it is negative.

Dates and times are checked against the calendar, but nothing else is made of them.

Main definitions:

* `Toml.date?` — a date, a time, or both;
* `Toml.real?`, `Toml.integer?` — numbers.
-/
import FirmwareCatalog.Decimal.Binary64
import FirmwareCatalog.Timestamp.Date
import FirmwareCatalog.Toml.Lexeme

set_option relaxedAutoImplicit false
set_option autoImplicit false

namespace FirmwareCatalog.Toml

/-! ### Digits -/

/-- The digits at the start of a text, with single underscores between them left out, and the text
after them.  `isDigit` says what a digit is. -/
def digits (isDigit : Char → Bool) : List Char → List Char × List Char
  | '_' :: c :: rest =>
    if isDigit c then
      let (ds, r) := digits isDigit rest
      (c :: ds, r)
    else ([], '_' :: c :: rest)
  | c :: rest =>
    if isDigit c then
      let (ds, r) := digits isDigit rest
      (c :: ds, r)
    else ([], c :: rest)
  | [] => ([], [])

/-- At least one digit; the first one has no underscore before it. -/
def digits? (isDigit : Char → Bool) (s : List Char) : Option (List Char × List Char) :=
  match s with
  | c :: _ => if isDigit c then some (digits isDigit s) else none
  | [] => none

def value (base : Nat) (ds : List Char) : Nat := (Text.ofDigits? base ds).getD 0

def sign : List Char → Bool × List Char
  | '-' :: rest => (true, rest)
  | '+' :: rest => (false, rest)
  | s => (false, s)

def wholeDigits? (s : List Char) : Option (List Char × List Char) :=
  match s with
  | '0' :: rest => some (['0'], rest)
  | s => digits? Char.isDigit s

/-! ### Whole numbers -/

def isDigitOf (base : Nat) (c : Char) : Bool := (Text.digitValue? c).any (· < base)

def fits (n : Int) : Bool := -0x8000000000000000 ≤ n && n < 0x8000000000000000

def based? (base : Nat) (s : List Char) : Option (Int × List Char) := do
  let (ds, rest) ← digits? (isDigitOf base) s
  let n : Int := value base ds
  if fits n then some (n, rest) else none

/-- A whole number. -/
def integer? : List Char → Option (Int × List Char)
  | '0' :: 'x' :: rest => based? 16 rest
  | '0' :: 'o' :: rest => based? 8 rest
  | '0' :: 'b' :: rest => based? 2 rest
  | s => do
    let (negative, s) := sign s
    let (ds, rest) ← wholeDigits? s
    let n : Int := if negative then -(value 10 ds : Int) else value 10 ds
    if fits n then some (n, rest) else none

/-! ### Other numbers -/

def fraction? : List Char → Option (List Char × List Char)
  | '.' :: rest => digits? Char.isDigit rest
  | s => some ([], s)

/-- An exponent after its letter, if there is one. -/
def exponent? : List Char → Option (Int × List Char)
  | c :: rest =>
    if c = 'e' ∨ c = 'E' then do
      let (negative, r) := sign rest
      let (ds, r) ← digits? Char.isDigit r
      some (if negative then -(value 10 ds : Int) else value 10 ds, r)
    else some (0, c :: rest)
  | [] => some (0, [])

def word? (negative : Bool) : List Char → Option (Binary64 × List Char)
  | 'i' :: 'n' :: 'f' :: rest => some (.signed negative .infinite, rest)
  | 'n' :: 'a' :: 'n' :: rest => some (.nan, rest)
  | _ => none

/-- A number with a fraction or an exponent, or one of the two words. -/
def real? (s : List Char) : Option (Binary64 × List Char) :=
  let (negative, s) := sign s
  match word? negative s with
  | some r => some r
  | none => do
    let (whole, afterWhole) ← wholeDigits? s
    let (fraction, afterFraction) ← fraction? afterWhole
    let (e, rest) ← exponent? afterFraction
    let x := Magnitude.ofDecimal (value 10 (whole ++ fraction)) (e - fraction.length)
    if rest.length = afterWhole.length ∨ (x = .infinite ∧ negative = false) then none
    else some (.signed negative x, rest)

/-! ### Dates and times -/

def fixed? (count : Nat) (s : List Char) : Option (Nat × List Char) :=
  let ds := s.take count
  if ds.length = count ∧ ds.all Char.isDigit then some (value 10 ds, s.drop count) else none

def character? (c : Char) : List Char → Option (List Char)
  | d :: rest => if d = c then some rest else none
  | [] => none

def upTo? (bound : Nat) (s : List Char) : Option (List Char) := do
  let (n, rest) ← fixed? 2 s
  if n ≤ bound then some rest else none

/-- A day of the calendar. -/
def day? (s : List Char) : Option (List Char) := do
  let (year, s) ← fixed? 4 s
  let (month, s) ← fixed? 2 (← character? '-' s)
  let (day, s) ← fixed? 2 (← character? '-' s)
  if 1 ≤ month ∧ month ≤ 12 ∧ 1 ≤ day ∧ day ≤ daysIn year month then some s else none

def secondFraction : List Char → List Char
  | '.' :: c :: rest => if c.isDigit then rest.dropWhile Char.isDigit else '.' :: c :: rest
  | s => s

def time? (s : List Char) : Option (List Char) := do
  let s ← character? ':' (← upTo? 23 s)
  let s ← character? ':' (← upTo? 59 s)
  (upTo? 60 s).map secondFraction

/-- An offset, if there is one. -/
def offset (s : List Char) : List Char :=
  match s with
  | [] => []
  | c :: rest =>
    if c = 'Z' ∨ c = 'z' then rest
    else if c = '+' ∨ c = '-' then
      ((do upTo? 59 (← character? ':' (← upTo? 23 rest))) : Option (List Char)).getD s
    else s

/-- A time after a day, if there is one. -/
def timeOfDay (s : List Char) : List Char :=
  match s with
  | [] => []
  | c :: rest =>
    if c = 'T' ∨ c = 't' ∨ c = ' ' then ((time? rest).map offset).getD s else s

/-- The text after a date, a time, or both. -/
def date? (s : List Char) : Option (List Char) :=
  match day? s with
  | some rest => some (timeOfDay rest)
  | none => time? s

end FirmwareCatalog.Toml
