/-
**The count of days.**

A date is counted by the days since the last day of year 0.  The count puts the years one after the
other, the months of a year, and the days of a month, so that no two dates share a number, and the
numbers are those between that of the first date and that of the last one.  The day after a date is
the date with the next number, whichever of month and year it begins anew, and there is one for
every date but the last.

Main definitions:

* `Date.yearStart` — the days before a year;
* `Date.first`, `Date.last` — the ends of the calendar.

Main results:

* `Date.dayNumber_injective` — **no two dates have the same number**;
* `Date.next?_eq_some_iff`, `Date.prev?_eq_some_iff` — the neighbours of a date are the dates with
  the neighbouring numbers;
* `Date.isSome_next?_iff`, `Date.isSome_prev?_iff` — which dates have them.
-/
import FirmwareCatalog.Timestamp.Date

set_option relaxedAutoImplicit false
set_option autoImplicit false

namespace FirmwareCatalog

namespace Date

/-! ### Years and months -/

/-- The days from the last day of year 0 to the last day before a year. -/
def yearStart (year : Int) : Int :=
  365 * (year - 1) + (year - 1) / 4 - (year - 1) / 100 + (year - 1) / 400

theorem dayNumber_eq (d : Date) :
    d.dayNumber = yearStart d.year + ((daysBefore d.year d.month : Int) + (d.day : Int)) := by
  rw [dayNumber, yearStart]
  omega

/-- A year has 365 days, or 366 in a leap year. -/
theorem yearStart_succ (year : Int) :
    yearStart (year + 1) = yearStart year + if isLeap year then 366 else 365 := by
  have hleap : isLeap year = true ↔ year % 4 = 0 ∧ (year % 100 ≠ 0 ∨ year % 400 = 0) := by
    simp [isLeap]
  unfold yearStart
  split
  · rename_i h
    have hyear := hleap.1 h
    omega
  · rename_i h
    have hyear := mt hleap.2 h
    omega

theorem yearStart_mono {y z : Int} (h : y ≤ z) : yearStart y ≤ yearStart z := by
  unfold yearStart
  omega

theorem daysBefore_end (year : Int) : daysBefore year 13 = if isLeap year then 366 else 365 := by
  simp only [daysBefore, daysIn]
  split <;> rfl

theorem daysBefore_succ (year : Int) {month : Nat} (h : 1 ≤ month) :
    daysBefore year (month + 1) = daysBefore year month + daysIn year month := by
  cases month with
  | zero => omega
  | succ month => rfl

theorem daysBefore_mono (year : Int) {m n : Nat} (hm : 1 ≤ m) (h : m ≤ n) :
    daysBefore year m ≤ daysBefore year n := by
  induction h with
  | refl => exact Nat.le_refl _
  | step h ih =>
      rename_i n
      have hn : 1 ≤ n := Nat.le_trans hm h
      rw [Nat.succ_eq_add_one, daysBefore_succ year hn]
      omega

theorem day_bounds (d : Date) :
    daysBefore d.year d.month < daysBefore d.year d.month + d.day ∧
      daysBefore d.year d.month + d.day ≤ daysBefore d.year (d.month + 1) ∧
      daysBefore d.year (d.month + 1) ≤ daysBefore d.year 13 := by
  obtain ⟨-, -, hlow, hhigh, hday, hdays⟩ := d.isDate
  have hmono := daysBefore_mono d.year (by omega : 1 ≤ d.month + 1) (by omega : d.month + 1 ≤ 13)
  have hsucc := daysBefore_succ d.year hlow
  omega

/-- The number of a date is one of its year. -/
theorem dayNumber_bounds (d : Date) :
    yearStart d.year < d.dayNumber ∧ d.dayNumber ≤ yearStart (d.year + 1) := by
  have hday := d.day_bounds
  have hend := daysBefore_end d.year
  rw [dayNumber_eq, yearStart_succ]
  split at hend
  · rename_i h
    rw [if_pos h]
    omega
  · rename_i h
    rw [if_neg h]
    omega

/-! ### No two dates have the same number -/

theorem year_le_of_dayNumber_eq {d e : Date} (h : d.dayNumber = e.dayNumber) : d.year ≤ e.year := by
  refine Int.not_lt.1 fun hlt => ?_
  have hmono : yearStart (e.year + 1) ≤ yearStart d.year := yearStart_mono hlt
  have hd := d.dayNumber_bounds
  have he := e.dayNumber_bounds
  omega

theorem month_le_of_dayNumber_eq {d e : Date} (hyear : d.year = e.year)
    (h : d.dayNumber = e.dayNumber) : d.month ≤ e.month := by
  refine Nat.not_lt.1 fun hlt => ?_
  have hmono := daysBefore_mono d.year (by omega : 1 ≤ e.month + 1) hlt
  have hd := d.day_bounds
  have he := e.day_bounds
  rw [dayNumber_eq, dayNumber_eq, ← hyear] at h
  rw [← hyear] at he
  omega

/-- **No two dates have the same number.** -/
theorem dayNumber_injective {d e : Date} (h : d.dayNumber = e.dayNumber) : d = e := by
  have hyear : d.year = e.year :=
    Int.le_antisymm (year_le_of_dayNumber_eq h) (year_le_of_dayNumber_eq h.symm)
  have hmonth : d.month = e.month :=
    Nat.le_antisymm (month_le_of_dayNumber_eq hyear h) (month_le_of_dayNumber_eq hyear.symm h.symm)
  have hday : d.day = e.day := by
    rw [dayNumber_eq, dayNumber_eq, hyear, hmonth] at h
    omega
  cases d
  cases e
  cases hyear
  cases hmonth
  cases hday
  rfl

/-! ### The ends of the calendar -/

/-- The first date. -/
def first : Date := ⟨minYear, 1, 1, by decide⟩

/-- The last date. -/
def last : Date := ⟨maxYear, 12, 31, by decide⟩

theorem first_le (d : Date) : first.dayNumber ≤ d.dayNumber := by
  have hyear : yearStart minYear ≤ yearStart d.year := yearStart_mono d.isDate.1
  have hd := d.dayNumber_bounds
  have hfirst : first.dayNumber = yearStart minYear + 1 := rfl
  omega

theorem le_last (d : Date) : d.dayNumber ≤ last.dayNumber := by
  have hle : d.year + 1 ≤ maxYear + 1 := Int.add_le_add_right d.isDate.2.1 1
  have hyear : yearStart (d.year + 1) ≤ yearStart (maxYear + 1) := yearStart_mono hle
  have hd := d.dayNumber_bounds
  have hlast : last.dayNumber = yearStart (maxYear + 1) := rfl
  omega

/-! ### Neighbours -/

theorem one_le_daysIn (year : Int) (month : Nat) : 1 ≤ daysIn year month := by
  unfold daysIn
  split
  · split <;> omega
  all_goals omega

theorem dayNumber_mk_succ {d : Date} (h : Date.Exists d.year d.month (d.day + 1)) :
    (⟨d.year, d.month, d.day + 1, h⟩ : Date).dayNumber = d.dayNumber + 1 := by
  rw [dayNumber_eq, dayNumber_eq]
  simp only
  omega

theorem dayNumber_mk_month {d : Date} (hday : d.day = daysIn d.year d.month)
    (h : Date.Exists d.year (d.month + 1) 1) :
    (⟨d.year, d.month + 1, 1, h⟩ : Date).dayNumber = d.dayNumber + 1 := by
  have hmonth := daysBefore_succ d.year d.isDate.2.2.1
  rw [dayNumber_eq, dayNumber_eq]
  simp only
  omega

/-- The last day of a year has the last number before the next one. -/
theorem dayNumber_of_last {d : Date} (hmonth : d.month = 12) (hday : d.day = 31) :
    d.dayNumber = yearStart (d.year + 1) := by
  have hend := daysBefore_end d.year
  rw [daysBefore_succ d.year (by decide)] at hend
  rw [dayNumber_eq, hmonth, hday, yearStart_succ]
  change daysBefore d.year 12 + 31 = _ at hend
  split at hend
  · rename_i h
    rw [if_pos h]
    omega
  · rename_i h
    rw [if_neg h]
    omega

/-- What comes behind a date: the next day of its month, the first one of the next month or of the
next year, or nothing. -/
theorem next?_cases (d : Date) :
    (∃ e, d.next? = some e ∧ e.dayNumber = d.dayNumber + 1) ∨ d.next? = none ∧ d = last := by
  obtain ⟨hmin, hmax, hlow, hhigh, hday, hdays⟩ := d.isDate
  by_cases hin : Date.Exists d.year d.month (d.day + 1)
  · refine Or.inl ⟨_, ?_, dayNumber_mk_succ hin⟩
    simp only [next?, ofYmd?, dif_pos hin]
  have hfull : d.day = daysIn d.year d.month := by
    refine Nat.le_antisymm hdays (Nat.not_lt.1 fun hlt => hin ?_)
    exact ⟨hmin, hmax, hlow, hhigh, Nat.succ_pos _, hlt⟩
  by_cases hnext : Date.Exists d.year (d.month + 1) 1
  · refine Or.inl ⟨_, ?_, dayNumber_mk_month hfull hnext⟩
    simp only [next?, ofYmd?, dif_neg hin, dif_pos hnext]
  -- only the last day of a year is left
  have hmonth : d.month = 12 := by
    refine Nat.le_antisymm hhigh (Nat.not_lt.1 fun hlt => hnext ?_)
    exact ⟨hmin, hmax, Nat.succ_pos _, hlt, Nat.le_refl 1, one_le_daysIn _ _⟩
  have hlast : d.day = 31 := by rw [hfull, hmonth]; rfl
  by_cases hyear : Date.Exists (d.year + 1) 1 1
  · refine Or.inl ⟨⟨d.year + 1, 1, 1, hyear⟩, ?_, ?_⟩
    · simp only [next?, ofYmd?, dif_neg hin, dif_neg hnext, dif_pos hyear]
    · rw [dayNumber_of_last hmonth hlast, dayNumber_eq]
      rfl
  · have hover : d.year = maxYear := by
      refine Int.le_antisymm hmax (Int.not_lt.1 fun hlt => hyear ?_)
      exact ⟨by omega, hlt, by decide, by decide, by decide, one_le_daysIn _ _⟩
    refine Or.inr ⟨?_, ?_⟩
    · simp only [next?, ofYmd?, dif_neg hin, dif_neg hnext, dif_neg hyear]
    · refine dayNumber_injective ?_
      rw [dayNumber_of_last hmonth hlast, hover]
      rfl

/-- What comes before a date: another day of its month, the last one of the month before or of the
year before, or nothing. -/
theorem prev?_cases (d : Date) :
    (∃ e, d.prev? = some e ∧ e.dayNumber + 1 = d.dayNumber) ∨ d.prev? = none ∧ d = first := by
  obtain ⟨hmin, hmax, hlow, hhigh, hday, hdays⟩ := d.isDate
  by_cases hin : Date.Exists d.year d.month (d.day - 1)
  · refine Or.inl ⟨⟨d.year, d.month, d.day - 1, hin⟩, ?_, ?_⟩
    · simp only [prev?, ofYmd?, dif_pos hin]
    · rw [dayNumber_eq, dayNumber_eq]
      simp only
      omega
  have hone : d.day = 1 := by
    refine Nat.le_antisymm (Nat.not_lt.1 fun hlt => hin ?_) hday
    exact ⟨hmin, hmax, hlow, hhigh, by omega, by omega⟩
  by_cases hprev : Date.Exists d.year (d.month - 1) (daysIn d.year (d.month - 1))
  · refine Or.inl ⟨⟨d.year, d.month - 1, daysIn d.year (d.month - 1), hprev⟩, ?_, ?_⟩
    · simp only [prev?, ofYmd?, dif_neg hin, dif_pos hprev]
    · have hmonth := daysBefore_succ d.year hprev.2.2.1
      rw [Nat.sub_add_cancel hlow] at hmonth
      rw [dayNumber_eq, dayNumber_eq]
      simp only
      omega
  -- only the first day of a year is left
  have hmonth : d.month = 1 := by
    refine Nat.le_antisymm (Nat.not_lt.1 fun hlt => hprev ?_) hlow
    exact ⟨hmin, hmax, by omega, by omega, one_le_daysIn _ _, Nat.le_refl _⟩
  have hstart : d.dayNumber = yearStart d.year + 1 := by
    rw [dayNumber_eq, hmonth, hone]
    rfl
  by_cases hyear : Date.Exists (d.year - 1) 12 31
  · refine Or.inl ⟨⟨d.year - 1, 12, 31, hyear⟩, ?_, ?_⟩
    · simp only [prev?, ofYmd?, dif_neg hin, dif_neg hprev, dif_pos hyear]
    · rw [dayNumber_of_last rfl rfl, hstart]
      simp only [Int.sub_add_cancel]
  · have hunder : d.year = minYear := by
      refine Int.le_antisymm (Int.not_lt.1 fun hlt => hyear ?_) hmin
      exact ⟨by omega, by omega, by decide, by decide, by decide, Nat.le_refl 31⟩
    refine Or.inr ⟨?_, ?_⟩
    · simp only [prev?, ofYmd?, dif_neg hin, dif_neg hprev, dif_neg hyear]
    · refine dayNumber_injective ?_
      rw [hstart, hunder]
      rfl

/-- **The day after a date is the date with the next number.** -/
theorem next?_eq_some_iff {d e : Date} : d.next? = some e ↔ e.dayNumber = d.dayNumber + 1 := by
  rcases d.next?_cases with ⟨f, hnext, hf⟩ | ⟨hnone, rfl⟩
  · rw [hnext, Option.some.injEq]
    constructor
    · rintro rfl
      exact hf
    · intro he
      exact dayNumber_injective (hf.trans he.symm)
  · have hle := e.le_last
    rw [hnone]
    constructor
    · intro h
      cases h
    · intro he
      omega

/-- **The day before a date is the date with the number before.** -/
theorem prev?_eq_some_iff {d e : Date} : d.prev? = some e ↔ e.dayNumber + 1 = d.dayNumber := by
  rcases d.prev?_cases with ⟨f, hprev, hf⟩ | ⟨hnone, rfl⟩
  · rw [hprev, Option.some.injEq]
    constructor
    · rintro rfl
      exact hf
    · intro he
      exact dayNumber_injective (by omega)
  · have hle := e.first_le
    rw [hnone]
    constructor
    · intro h
      cases h
    · intro he
      omega

/-- Every date but the last has a day after it. -/
theorem isSome_next?_iff {d : Date} : d.next?.isSome = true ↔ d.dayNumber < last.dayNumber := by
  rcases d.next?_cases with ⟨e, hnext, he⟩ | ⟨hnone, rfl⟩
  · have hle := e.le_last
    simp only [hnext, Option.isSome_some, true_iff]
    omega
  · simp [hnone]

/-- Every date but the first has a day before it. -/
theorem isSome_prev?_iff {d : Date} : d.prev?.isSome = true ↔ first.dayNumber < d.dayNumber := by
  rcases d.prev?_cases with ⟨e, hprev, he⟩ | ⟨hnone, rfl⟩
  · have hle := e.first_le
    simp only [hprev, Option.isSome_some, true_iff]
    omega
  · simp [hnone]

end Date

end FirmwareCatalog
