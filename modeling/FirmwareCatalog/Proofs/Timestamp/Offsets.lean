/-
**One instant on several clocks.**

A timestamp is shown anew for another offset from universal time by going to universal time first,
and from there to the clock of that offset.  Each of the two steps moves the date by a day at most,
over the end of a month, of a February with or without its leap day, or of a year, and neither moves
the instant: on a clock of a given offset there is at most one timestamp for an instant, and there
is none only where the date would leave the calendar.

Main definitions:

* `Timestamp.toUtc` — the timestamp of universal time;
* `Timestamp.inOffset?` — the timestamp of the clock with an offset.

Main results:

* `utcDate?_eq_some_iff` — the date of a shifted clock by its number;
* `Timestamp.ext_instant` — a timestamp is known by its instant and its offset;
* `Timestamp.inOffset?_eq_some_iff` — **a timestamp shown anew names the same instant**, and is the
  only one with its offset that does;
* `Timestamp.exists_inOffset?_iff` — which offsets a timestamp can be shown for.
-/
import FirmwareCatalog.Proofs.Timestamp.Calendar
import FirmwareCatalog.Timestamp.Basic

set_option relaxedAutoImplicit false
set_option autoImplicit false

namespace FirmwareCatalog

/-! ### Shifted dates -/

def utcDays (second : Nat) (offset : Int) : Int := utcSecond second offset / 86400

def utcClock (second : Nat) (offset : Int) : Nat := (utcSecond second offset % 86400).toNat

theorem utcSecond_eq (second : Nat) (offset : Int) :
    (second : Int) - offset * 60 = utcDays second offset * 86400 + (utcClock second offset : Int) := by
  unfold utcDays utcClock utcSecond
  omega

theorem utcClock_lt (second : Nat) (offset : Int) : utcClock second offset < 86400 := by
  unfold utcClock
  omega

theorem utcClock_mod (second : Nat) (offset : Int) : utcClock second offset % 60 = second % 60 := by
  unfold utcClock utcSecond
  omega

/-- The date in universal time has the number that is shifted by the days. -/
theorem utcDate?_eq_some_iff {d e : Date} {second : Nat} {offset : Int} (hs : second < 86400)
    (ho : offset.natAbs < 1440) :
    utcDate? d second offset = some e ↔ e.dayNumber = d.dayNumber + utcDays second offset := by
  -- the shift is by one day at most
  unfold utcDate? utcDays utcSecond
  split
  · have hdays : ((second : Int) - offset * 60) / 86400 = -1 := by omega
    rw [Date.prev?_eq_some_iff, hdays]
    omega
  split
  · have hdays : ((second : Int) - offset * 60) / 86400 = 1 := by omega
    rw [Date.next?_eq_some_iff, hdays]
  · have hdays : ((second : Int) - offset * 60) / 86400 = 0 := by omega
    rw [Option.some.injEq, hdays, Int.add_zero]
    constructor
    · rintro rfl
      rfl
    · intro h
      exact (Date.dayNumber_injective h).symm

/-- There is such a date exactly if its number is one of the calendar. -/
theorem isSome_utcDate?_iff {d : Date} {second : Nat} {offset : Int} (hs : second < 86400)
    (ho : offset.natAbs < 1440) :
    (utcDate? d second offset).isSome = true ↔
      Date.first.dayNumber ≤ d.dayNumber + utcDays second offset ∧
        d.dayNumber + utcDays second offset ≤ Date.last.dayNumber := by
  have hfirst := d.first_le
  have hlast := d.le_last
  unfold utcDate? utcDays utcSecond
  split
  · have hdays : ((second : Int) - offset * 60) / 86400 = -1 := by omega
    rw [Date.isSome_prev?_iff, hdays]
    omega
  split
  · have hdays : ((second : Int) - offset * 60) / 86400 = 1 := by omega
    rw [Date.isSome_next?_iff, hdays]
    omega
  · have hdays : ((second : Int) - offset * 60) / 86400 = 0 := by omega
    rw [Option.isSome_some, hdays, Int.add_zero]
    exact iff_of_true rfl ⟨hfirst, hlast⟩

theorem utcDays_neg {second : Nat} (hs : second < 86400) (offset : Int) :
    utcDays (utcClock second offset) (-offset) = -utcDays second offset ∧
      utcClock (utcClock second offset) (-offset) = second := by
  have hthere := utcSecond_eq second offset
  have hback := utcSecond_eq (utcClock second offset) (-offset)
  have hlt := utcClock_lt (utcClock second offset) (-offset)
  omega

namespace Timestamp

/-! ### Universal time -/

theorem seconds_add_offset (t : Timestamp) :
    t.instant.seconds + t.offset * 60 = t.date.dayNumber * 86400 + (t.second : Int) := by
  simp only [instant, utcSecond]
  omega

theorem utc_offset_lt : (0 : Int).natAbs < 1440 := by decide

/-- The same point in time as a clock of universal time shows it. -/
def toUtc (t : Timestamp) : Timestamp where
  date := (utcDate? t.date t.second t.offset).get t.inRange
  second := utcClock t.second t.offset
  nanos := t.nanos
  offset := 0
  second_lt := utcClock_lt t.second t.offset
  nanos_lt := t.nanos_lt
  leap h := (utcClock_mod t.second t.offset).trans (t.leap h)
  offset_lt := utc_offset_lt
  inRange := by
    have hlt := utcClock_lt t.second t.offset
    rw [utcDate?, utcSecond, if_neg (by omega), if_neg (by omega)]
    rfl

@[simp] theorem toUtc_offset (t : Timestamp) : t.toUtc.offset = 0 := rfl

@[simp] theorem toUtc_nanos (t : Timestamp) : t.toUtc.nanos = t.nanos := rfl

@[simp] theorem toUtc_second (t : Timestamp) : t.toUtc.second = utcClock t.second t.offset := rfl

@[simp] theorem toUtc_dayNumber (t : Timestamp) :
    t.toUtc.date.dayNumber = t.date.dayNumber + utcDays t.second t.offset :=
  (utcDate?_eq_some_iff t.second_lt t.offset_lt).1 (Option.some_get t.inRange).symm

theorem toUtc_instant (t : Timestamp) : t.toUtc.instant = t.instant := by
  have hparts := utcSecond_eq t.second t.offset
  simp only [instant, toUtc_dayNumber, toUtc_second, toUtc_nanos, toUtc_offset, utcSecond,
    Instant.mk.injEq, and_true]
  omega

/-- **A timestamp is known by its instant and its offset.** -/
theorem ext_instant {s t : Timestamp} (hoffset : s.offset = t.offset)
    (h : s.instant = t.instant) : s = t := by
  have hs := s.second_lt
  have ht := t.second_lt
  have hseconds : s.date.dayNumber * 86400 + (s.second : Int) =
      t.date.dayNumber * 86400 + (t.second : Int) := by
    rw [← seconds_add_offset, ← seconds_add_offset, h, hoffset]
  have hdate : s.date = t.date := Date.dayNumber_injective (by omega)
  have hsecond : s.second = t.second := by
    rw [hdate] at hseconds
    omega
  have hnanos : s.nanos = t.nanos := (Instant.mk.inj h).2
  cases s
  cases t
  cases hoffset
  cases hdate
  cases hsecond
  cases hnanos
  rfl

/-! ### Other clocks -/

/-- The same point in time as the clock with the offset shows it, if its date is within the range.
-/
def inOffset? (t : Timestamp) (offset : Int) : Option Timestamp :=
  (utcDate? t.toUtc.date t.toUtc.second (-offset)).bind fun date =>
    ofLocal? date (utcClock t.toUtc.second (-offset)) t.toUtc.nanos offset

theorem ofLocal?_eq_some_iff {date : Date} {second nanos : Nat} {offset : Int} {t : Timestamp} :
    ofLocal? date second nanos offset = some t ↔
      t.date = date ∧ t.second = second ∧ t.nanos = nanos ∧ t.offset = offset := by
  constructor
  · intro h
    simp only [ofLocal?, Option.dite_none_right_eq_some, Option.some.injEq] at h
    obtain ⟨-, -, -, -, -, rfl⟩ := h
    exact ⟨rfl, rfl, rfl, rfl⟩
  · rintro ⟨rfl, rfl, rfl, rfl⟩
    exact ofLocal?_self t

theorem inOffset?_self (t : Timestamp) : t.inOffset? t.offset = some t := by
  have hback : (-t.offset).natAbs < 1440 := by
    rw [Int.natAbs_neg]
    exact t.offset_lt
  obtain ⟨hdays, hclock⟩ := utcDays_neg t.second_lt t.offset
  have hdate : utcDate? t.toUtc.date t.toUtc.second (-t.offset) = some t.date := by
    rw [utcDate?_eq_some_iff t.toUtc.second_lt hback, toUtc_dayNumber, toUtc_second, hdays]
    omega
  rw [inOffset?, hdate, Option.bind_some, toUtc_second, hclock, toUtc_nanos]
  exact ofLocal?_self t

theorem inOffset?_congr {s t : Timestamp} (h : s.instant = t.instant) (offset : Int) :
    s.inOffset? offset = t.inOffset? offset := by
  have hsame : s.toUtc = t.toUtc := ext_instant rfl (by rw [toUtc_instant, toUtc_instant, h])
  rw [inOffset?, inOffset?, hsame]

/-- **A timestamp shown anew names the same instant**, and no other one with its offset does. -/
theorem inOffset?_eq_some_iff {t t' : Timestamp} {offset : Int} :
    t.inOffset? offset = some t' ↔ t'.instant = t.instant ∧ t'.offset = offset := by
  constructor
  · intro h
    obtain ⟨date, hdate, hlocal⟩ := Option.bind_eq_some_iff.1 h
    obtain ⟨rfl, hsecond, hnanos, rfl⟩ := ofLocal?_eq_some_iff.1 hlocal
    have hback : (-t'.offset).natAbs < 1440 := by
      rw [Int.natAbs_neg]
      exact t'.offset_lt
    have hday := (utcDate?_eq_some_iff t.toUtc.second_lt hback).1 hdate
    have hparts := utcSecond_eq t.toUtc.second (-t'.offset)
    refine ⟨?_, rfl⟩
    rw [← toUtc_instant t]
    simp only [instant, utcSecond, hsecond, hnanos, hday, toUtc_offset, Instant.mk.injEq, and_true]
    omega
  · rintro ⟨hinstant, rfl⟩
    rw [← inOffset?_congr hinstant]
    exact t'.inOffset?_self

/-- **A timestamp can be shown for every offset** of less than a day, except where the date would
leave the calendar. -/
theorem exists_inOffset?_iff {t : Timestamp} {offset : Int} :
    (∃ t', t.inOffset? offset = some t') ↔
      offset.natAbs < 1440 ∧
        Date.first.dayNumber * 86400 ≤ t.instant.seconds + offset * 60 ∧
        t.instant.seconds + offset * 60 < (Date.last.dayNumber + 1) * 86400 := by
  constructor
  · rintro ⟨t', h⟩
    obtain ⟨hinstant, rfl⟩ := inOffset?_eq_some_iff.1 h
    have hfirst := t'.date.first_le
    have hlast := t'.date.le_last
    have hs := t'.second_lt
    rw [← hinstant, seconds_add_offset]
    exact ⟨t'.offset_lt, by omega, by omega⟩
  · rintro ⟨ho, hlow, hhigh⟩
    have hs := t.toUtc.second_lt
    have hback : (-offset).natAbs < 1440 := by
      rw [Int.natAbs_neg]
      exact ho
    have hseconds := t.toUtc.seconds_add_offset
    rw [toUtc_instant, toUtc_offset, Int.zero_mul, Int.add_zero] at hseconds
    have hparts := utcSecond_eq t.toUtc.second (-offset)
    have hlt := utcClock_lt t.toUtc.second (-offset)
    have hsome : (utcDate? t.toUtc.date t.toUtc.second (-offset)).isSome = true := by
      rw [isSome_utcDate?_iff hs hback]
      omega
    obtain ⟨date, hdate⟩ := Option.isSome_iff_exists.1 hsome
    have hday := (utcDate?_eq_some_iff hs hback).1 hdate
    -- the way back leads to universal time, and so to a date of the calendar
    have hreturn : (utcDate? date (utcClock t.toUtc.second (-offset)) offset).isSome = true := by
      obtain ⟨hdays, -⟩ := utcDays_neg hs (-offset)
      rw [Int.neg_neg] at hdays
      have hfirst := t.toUtc.date.first_le
      have hlast := t.toUtc.date.le_last
      rw [isSome_utcDate?_iff hlt ho, hdays, hday]
      omega
    refine ⟨⟨date, utcClock t.toUtc.second (-offset), t.nanos, offset, hlt, t.nanos_lt, ?_, ho,
      hreturn⟩, ?_⟩
    · intro h
      exact (utcClock_mod t.toUtc.second (-offset)).trans (t.toUtc.leap h)
    · rw [inOffset?, hdate, Option.bind_some]
      exact ofLocal?_eq_some_iff.2 ⟨rfl, rfl, rfl, rfl⟩

end Timestamp

end FirmwareCatalog
