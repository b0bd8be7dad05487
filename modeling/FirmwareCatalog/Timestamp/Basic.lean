/-
**Timestamps.**

A timestamp is a date and a time of day as somebody's clock shows them, together with how far that
clock is ahead of universal time, in whole minutes.  Two timestamps are equal when they name the
same instant, whatever the clocks show.  A second may be a leap second; it is then counted with the
second before it, and its nanoseconds go on from one thousand million.

Main definitions:

* `Timestamp` — date, second of the day, nanoseconds and offset;
* `Timestamp.utcDate?` — the date in universal time;
* `Timestamp.instant` — what equality compares;
* `Timestamp.ofLocal?` — the timestamp of a clock reading, if it is within the range.
-/
import FirmwareCatalog.Timestamp.Date

set_option relaxedAutoImplicit false
set_option autoImplicit false

namespace FirmwareCatalog

/-- A point in time: whole seconds since the last day of year 0 began, in universal time, and
nanoseconds, which go on from one thousand million in a leap second. -/
structure Instant where
  seconds : Int
  nanos : Nat
  deriving DecidableEq, Repr

def utcSecond (second : Nat) (offset : Int) : Int := (second : Int) - offset * 60

/-- The date in universal time of a clock reading: the local date or one of its neighbours. -/
def utcDate? (date : Date) (second : Nat) (offset : Int) : Option Date :=
  if utcSecond second offset < 0 then date.prev?
  else if 86400 ≤ utcSecond second offset then date.next?
  else some date

/-- A clock reading with the clock's offset from universal time, in minutes east. -/
structure Timestamp where
  date : Date
  /-- The second of the day. -/
  second : Nat
  nanos : Nat
  offset : Int
  second_lt : second < 86400
  nanos_lt : nanos < 2000000000
  /-- A leap second is the last one of its minute. -/
  leap : 1000000000 ≤ nanos → second % 60 = 59
  offset_lt : offset.natAbs < 1440
  /-- The date in universal time is within the range of dates. -/
  inRange : (utcDate? date second offset).isSome = true

namespace Timestamp

/-- The point in time that a clock reading names. -/
def instant (t : Timestamp) : Instant :=
  ⟨t.date.dayNumber * 86400 + utcSecond t.second t.offset, t.nanos⟩

/-- Timestamps are equal when they name the same instant. -/
instance : BEq Timestamp := ⟨fun s t => s.instant == t.instant⟩

/-- The timestamp of a clock reading. -/
def ofLocal? (date : Date) (second nanos : Nat) (offset : Int) : Option Timestamp :=
  if hs : second < 86400 then
    if hn : nanos < 2000000000 then
      if hl : 1000000000 ≤ nanos → second % 60 = 59 then
        if ho : offset.natAbs < 1440 then
          if hr : (utcDate? date second offset).isSome = true then
            some ⟨date, second, nanos, offset, hs, hn, hl, ho, hr⟩
          else none
        else none
      else none
    else none
  else none

theorem beq_iff {s t : Timestamp} : (s == t) = true ↔ s.instant = t.instant := by
  change (s.instant == t.instant) = true ↔ _
  exact beq_iff_eq

theorem ofLocal?_self (t : Timestamp) :
    ofLocal? t.date t.second t.nanos t.offset = some t := by
  unfold ofLocal?
  rw [dif_pos t.second_lt, dif_pos t.nanos_lt, dif_pos t.leap, dif_pos t.offset_lt,
    dif_pos t.inRange]

end Timestamp

end FirmwareCatalog
