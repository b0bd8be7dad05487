/-
**Calendar dates.**

Dates of the proleptic Gregorian calendar, with a year 0 before year 1, within a fixed range of
years.  A date is counted by the days since the last day of year 0, and its two neighbours are the
dates one day away, if they are within the range.

Main definitions:

* `Date` — a year, a month and a day that exist;
* `Date.ofYmd?` — the date of three numbers, if there is one;
* `Date.dayNumber` — the count of days;
* `Date.next?`, `Date.prev?` — the neighbours.
-/

set_option relaxedAutoImplicit false
set_option autoImplicit false

namespace FirmwareCatalog

def minYear : Int := -262143

def maxYear : Int := 262142

def isLeap (year : Int) : Bool := year % 4 == 0 && (year % 100 != 0 || year % 400 == 0)

/-- How many days a month has. -/
def daysIn (year : Int) (month : Nat) : Nat :=
  match month with
  | 2 => if isLeap year then 29 else 28
  | 4 | 6 | 9 | 11 => 30
  | _ => 31

def Date.Exists (year : Int) (month day : Nat) : Prop :=
  minYear ≤ year ∧ year ≤ maxYear ∧ 1 ≤ month ∧ month ≤ 12 ∧ 1 ≤ day ∧ day ≤ daysIn year month

instance (year : Int) (month day : Nat) : Decidable (Date.Exists year month day) :=
  inferInstanceAs (Decidable (_ ∧ _ ∧ _ ∧ _ ∧ _ ∧ _))

/-- A calendar date. -/
structure Date where
  year : Int
  month : Nat
  day : Nat
  isDate : Date.Exists year month day
  deriving DecidableEq

namespace Date

/-- The date of three numbers, if there is one. -/
def ofYmd? (year : Int) (month day : Nat) : Option Date :=
  if h : Date.Exists year month day then some ⟨year, month, day, h⟩ else none

def daysBefore (year : Int) : Nat → Nat
  | 0 => 0
  | 1 => 0
  | m + 2 => daysBefore year (m + 1) + daysIn year (m + 1)

/-- The days from the last day of year 0 to a date. -/
def dayNumber (d : Date) : Int :=
  let y := d.year - 1
  365 * y + y / 4 - y / 100 + y / 400 + (daysBefore d.year d.month : Int) + (d.day : Int)

/-- The day after. -/
def next? (d : Date) : Option Date :=
  match ofYmd? d.year d.month (d.day + 1) with
  | some e => some e
  | none =>
    match ofYmd? d.year (d.month + 1) 1 with
    | some e => some e
    | none => ofYmd? (d.year + 1) 1 1

/-- The day before. -/
def prev? (d : Date) : Option Date :=
  match ofYmd? d.year d.month (d.day - 1) with
  | some e => some e
  | none =>
    match ofYmd? d.year (d.month - 1) (daysIn d.year (d.month - 1)) with
    | some e => some e
    | none => ofYmd? (d.year - 1) 12 31

theorem ofYmd?_eq_some_iff {year : Int} {month day : Nat} {d : Date} :
    ofYmd? year month day = some d ↔ d.year = year ∧ d.month = month ∧ d.day = day := by
  unfold ofYmd?
  constructor
  · intro h
    split at h
    · cases h; exact ⟨rfl, rfl, rfl⟩
    · cases h
  · rintro ⟨rfl, rfl, rfl⟩
    rw [dif_pos d.isDate]

end Date

end FirmwareCatalog
