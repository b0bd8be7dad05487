/-
**The text of a timestamp.**

Timestamps are written as RFC 3339 says: date, `T`, time, and the offset or `Z`.  A fraction of a
second has three, six or nine digits, as few as are enough, and none at all when it is zero.  Years
beyond four digits, and those before year 0, carry a sign.

Reading is more tolerant.  A year with a sign may have any number of digits; blanks may stand before
every number, every separator and the offset; `T` may be a small letter or a space; fractions may
have any number of digits, of which nine count; the offset may be `Z`, `UTC` or hours and minutes,
with a colon or blanks between them or nothing at all, and its sign may be the minus sign proper.

Main definitions:

* `Timestamp.render` — the written form;
* `Timestamp.Refusal` — why a text is no timestamp;
* `Timestamp.parse` — the timestamp of a text.
-/
import FirmwareCatalog.Text.Blank
import FirmwareCatalog.Text.Utf8
import FirmwareCatalog.Timestamp.Basic

set_option relaxedAutoImplicit false
set_option autoImplicit false

namespace FirmwareCatalog.Timestamp

/-! ### Writing -/

def padded (width n : Nat) : List Char :=
  let ds := Nat.toDigits 10 n
  List.replicate (width - ds.length) '0' ++ ds

def renderYear (year : Int) : List Char :=
  if 0 ≤ year ∧ year ≤ 9999 then padded 4 year.toNat
  else (if year < 0 then '-' else '+') :: padded 4 year.natAbs

/-- A fraction of a second with its point. -/
def renderFraction (nanos : Nat) : List Char :=
  if nanos = 0 then []
  else if nanos % 1000000 = 0 then '.' :: padded 3 (nanos / 1000000)
  else if nanos % 1000 = 0 then '.' :: padded 6 (nanos / 1000)
  else '.' :: padded 9 nanos

/-- An offset in minutes. -/
def renderOffset (offset : Int) : List Char :=
  if offset = 0 then ['Z']
  else
    (if offset < 0 then '-' else '+') ::
      (padded 2 (offset.natAbs / 60) ++ ':' :: padded 2 (offset.natAbs % 60))

/-- The written form, as characters. -/
def renderChars (t : Timestamp) : List Char :=
  let leap := if 1000000000 ≤ t.nanos then 1 else 0
  renderYear t.date.year ++ '-' :: padded 2 t.date.month ++ '-' :: padded 2 t.date.day ++
    'T' :: padded 2 (t.second / 3600) ++ ':' :: padded 2 (t.second / 60 % 60) ++
    ':' :: padded 2 (t.second % 60 + leap) ++ renderFraction (t.nanos % 1000000000) ++
    renderOffset t.offset

/-- The written form. -/
def render (t : Timestamp) : String := String.ofList t.renderChars

/-! ### Reading -/

/-- Why a text is no timestamp. -/
inductive Refusal where
  | invalid
  | outOfRange
  | tooShort
  | tooLong
  | impossible
  deriving DecidableEq, Repr

/-- The wording of a refusal. -/
def Refusal.message : Refusal → String
  | .invalid => "input contains invalid characters"
  | .outOfRange => "input is out of range"
  | .tooShort => "premature end of input"
  | .tooLong => "trailing input"
  | .impossible => "no possible date and time matching input"

def isDigit (c : Char) : Bool := '0' ≤ c && c ≤ '9'

def ofDigits (ds : List Char) : Nat := ds.foldl (fun n d => n * 10 + (d.toNat - '0'.toNat)) 0

/-- At most so many digits, at least one. -/
def number (width : Nat) (s : List Char) : Except Refusal (Nat × List Char) :=
  let ds := (s.take width).takeWhile isDigit
  match ds, s with
  | [], [] => .error .tooShort
  | [], _ :: _ => .error .invalid
  | _, _ => .ok (ofDigits ds, s.drop ds.length)

/-- Any number of digits, at least one, as long as the value fits in 63 bits. -/
def longNumber (s : List Char) : Except Refusal (Nat × List Char) :=
  let ds := s.takeWhile isDigit
  match ds, s with
  | [], [] => .error .tooShort
  | [], _ :: _ => .error .invalid
  | _, _ =>
    if ofDigits ds < 0x8000000000000000 then .ok (ofDigits ds, s.drop ds.length)
    else .error .outOfRange

/-- A year of up to four digits, or one with a sign. -/
def year (s : List Char) : Except Refusal (Int × List Char) :=
  match Text.trimStart s with
  | '-' :: r => do
    let (n, rest) ← longNumber r
    if n ≤ 0x80000000 then .ok (-(n : Int), rest) else .error .outOfRange
  | '+' :: r => do
    let (n, rest) ← longNumber r
    if n < 0x80000000 then .ok ((n : Int), rest) else .error .outOfRange
  | r => do
    let (n, rest) ← number 4 r
    .ok ((n : Int), rest)

/-- A number of up to two digits within bounds, after blanks. -/
def field (low high : Nat) (s : List Char) : Except Refusal (Nat × List Char) := do
  let (n, rest) ← number 2 (Text.trimStart s)
  if low ≤ n ∧ n ≤ high then .ok (n, rest) else .error .outOfRange

def separator (c : Char) (s : List Char) : Except Refusal (List Char) :=
  match Text.trimStart s with
  | [] => .error .tooShort
  | d :: r => if d = c then .ok r else .error .invalid

def dateEnd (s : List Char) : Except Refusal (List Char) :=
  match s with
  | [] => .error .tooShort
  | c :: r => if c = 'T' ∨ c = 't' ∨ c = ' ' then .ok r else .error .invalid

/-- A fraction of a second in nanoseconds; digits after the ninth do not count. -/
def fraction (s : List Char) : Except Refusal (Nat × List Char) :=
  match s with
  | '.' :: r => do
    let (n, rest) ← number 9 r
    .ok (n * Nat.pow 10 (9 - (r.length - rest.length)), rest.dropWhile isDigit)
  | _ => .ok (0, s)

/-- Two digits, the first of them below the bound.  Two bytes are taken before they are looked at,
so a shorter rest is the end of the text. -/
def twoDigits (s : List Char) : Except Refusal (Nat × List Char) :=
  if Utf8.size s < 2 then .error .tooShort
  else
    match s with
    | a :: b :: r => if isDigit a && isDigit b then .ok (ofDigits [a, b], r) else .error .invalid
    | _ => .error .invalid

def hoursMinutes (s : List Char) : Except Refusal (Nat × List Char) := do
  let (h, r) ← twoDigits s
  let (m, r) ← twoDigits (r.dropWhile fun c => c == ':' || Text.isBlank c)
  if m < 60 then .ok (h * 60 + m, r) else .error .outOfRange

/-- An offset in minutes east. -/
def offsetOf (s : List Char) : Except Refusal (Int × List Char) :=
  if (s.take 3).map Char.toUpper = ['U', 'T', 'C'] then .ok (0, s.drop 3)
  else
    match s with
    | [] => .error .tooShort
    | c :: r =>
      if c = 'Z' ∨ c = 'z' then .ok (0, r)
      else if c = '+' then (hoursMinutes r).map fun (m, rest) => ((m : Int), rest)
      else if c = '-' ∨ c.toNat = 0x2212 then
        (hoursMinutes r).map fun (m, rest) => (-(m : Int), rest)
      else .error .invalid

/-- The timestamp of a text, given as characters.  The whole text is read before the date is looked
up in the calendar. -/
def parseChars (s : List Char) : Except Refusal Timestamp := do
  let (y, s) ← year s
  let s ← separator '-' s
  let (mo, s) ← field 1 12 s
  let s ← separator '-' s
  let (d, s) ← field 1 31 s
  let s ← dateEnd s
  let (h, s) ← field 0 23 s
  let s ← separator ':' s
  let (mi, s) ← field 0 59 s
  let s ← separator ':' s
  let (sec, s) ← field 0 60 s
  let (nanos, s) ← fraction s
  let (offset, s) ← offsetOf (Text.trimStart s)
  if (Text.trimStart s).isEmpty = false then .error .tooLong
  else
    match Date.ofYmd? y mo d with
    | none => .error .outOfRange
    | some date =>
      if 1440 ≤ offset.natAbs then .error .outOfRange
      else
        let leap := if sec = 60 then 1 else 0
        match ofLocal? date (h * 3600 + mi * 60 + (sec - leap)) (nanos + leap * 1000000000) offset with
        | some t => .ok t
        | none => .error .impossible

/-- The timestamp of a text. -/
def parse (s : String) : Except Refusal Timestamp := parseChars s.toList

end FirmwareCatalog.Timestamp
