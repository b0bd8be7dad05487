/-
**Written timestamps are read back.**

A timestamp is written with numbers of a fixed width and separators between them, and every reader of
a part takes exactly what the writer of that part has put there.  The year is the only number whose
width varies, and a leap second is written as the second after the last one of its minute.

Main results:

* `Timestamp.ofDigits_padded`, `Timestamp.number_run` — numbers of a fixed width;
* `Timestamp.year_render`, `Timestamp.fraction_render`, `Timestamp.offsetOf_render` — the parts;
* `Timestamp.parse_render` — **a timestamp is read back**, with its offset.
-/
import FirmwareCatalog.Proofs.Text.Digits
import FirmwareCatalog.Timestamp.Text

set_option relaxedAutoImplicit false
set_option autoImplicit false

namespace FirmwareCatalog.Timestamp

open Text (Stops)

/-! ### Padded numbers -/

theorem isDigit_of_mem_padded {width n : Nat} {c : Char} (h : c ∈ padded width n) :
    isDigit c = true := by
  rcases List.mem_append.1 h with h | h
  · rw [List.eq_of_mem_replicate h]
    decide
  · exact Text.isDigit_of_mem_toDigits h

theorem length_padded {width n : Nat} (hpos : 0 < width) (h : n < Nat.pow 10 width) :
    (padded width n).length = width := by
  have hle := (Nat.length_toDigits_le_iff (b := 10) (by decide) hpos).2 h
  simp only [padded, List.length_append, List.length_replicate]
  omega

theorem padded_ne_nil (width n : Nat) : padded width n ≠ [] := by
  simp [padded]

theorem ofDigits_eq (ds : List Char) : ofDigits ds = Nat.ofDigitChars 10 ds 0 := by
  simp only [ofDigits, Nat.ofDigitChars_eq_foldl, Nat.mul_comm]

/-- Zeros in front do not change a number. -/
theorem ofDigits_padded (width n : Nat) : ofDigits (padded width n) = n := by
  rw [ofDigits_eq, padded, Nat.ofDigitChars_append, Nat.ofDigitChars_replicate_zero, Nat.mul_zero,
    Nat.ofDigitChars_ten_toDigits]

/-! ### Numbers and separators -/

theorem isBlank_of_isDigit {d : Char} (h : isDigit d = true) : Text.isBlank d = false := by
  simp only [isDigit, Bool.and_eq_true, decide_eq_true_eq] at h
  have hlow : 48 ≤ d.toNat := h.1
  have hhigh : d.toNat ≤ 57 := h.2
  simp only [Text.isBlank, Bool.or_eq_false_iff, Bool.and_eq_false_iff, decide_eq_false_iff_not,
    beq_eq_false_iff_ne]
  omega

theorem trimStart_padded (width n : Nat) (rest : List Char) :
    Text.trimStart (padded width n ++ rest) = padded width n ++ rest := by
  obtain ⟨d, ds, hds⟩ := List.exists_cons_of_ne_nil (padded_ne_nil width n)
  have hd : isDigit d = true := isDigit_of_mem_padded (by rw [hds]; exact List.mem_cons_self)
  rw [hds, Text.trimStart, List.cons_append,
    List.dropWhile_cons_of_neg (by simp [isBlank_of_isDigit hd])]

/-- A run of digits of at most the width is taken as a number. -/
theorem number_run {width : Nat} {run rest : List Char} (hrun : ∀ c ∈ run, isDigit c = true)
    (hne : run ≠ []) (hlen : run.length ≤ width) (hrest : Stops isDigit rest) :
    number width (run ++ rest) = .ok (ofDigits run, rest) := by
  have htake : ((run ++ rest).take width).takeWhile isDigit = run := by
    rw [List.take_append, List.take_of_length_le hlen]
    exact Text.takeWhile_append_stop hrun (hrest.take _)
  simp only [number, htake, List.drop_left]
  split
  · exact absurd rfl hne
  · exact absurd rfl hne
  · rfl

theorem longNumber_run {run rest : List Char} (hrun : ∀ c ∈ run, isDigit c = true)
    (hne : run ≠ []) (hfits : ofDigits run < 0x8000000000000000) (hrest : Stops isDigit rest) :
    longNumber (run ++ rest) = .ok (ofDigits run, rest) := by
  have htake := Text.takeWhile_append_stop hrun hrest
  simp only [longNumber, htake, List.drop_left]
  split
  · exact absurd rfl hne
  · exact absurd rfl hne
  · rw [if_pos hfits]

theorem field_padded {low high n : Nat} {rest : List Char} (hlow : low ≤ n) (hhigh : n ≤ high)
    (h : n < 100) (hrest : Stops isDigit rest) :
    field low high (padded 2 n ++ rest) = .ok (n, rest) := by
  have hread := number_run (fun c hc => isDigit_of_mem_padded hc) (padded_ne_nil 2 n)
    (Nat.le_of_eq (length_padded (by decide) h)) hrest
  rw [ofDigits_padded] at hread
  rw [field, trimStart_padded, hread]
  simp only [bind, Except.bind, hlow, hhigh, and_self, if_true]

theorem separator_cons {c : Char} (h : Text.isBlank c = false) (rest : List Char) :
    separator c (c :: rest) = .ok rest := by
  rw [separator, Text.trimStart, List.dropWhile_cons_of_neg (by simp [h])]
  simp

/-! ### Years -/

theorem ne_of_isDigit {d : Char} (h : isDigit d = true) : d ∉ ['-', '+', ':', '.'] :=
  Text.not_mem_of_any (by decide) h

theorem trimStart_sign {c : Char} (h : c ∈ ['-', '+', 'Z']) (s : List Char) :
    Text.trimStart (c :: s) = c :: s := by
  have hnone : ['-', '+', 'Z'].any Text.isBlank = false := by decide
  rw [Text.trimStart, List.dropWhile_cons_of_neg (List.any_eq_false.1 hnone c h)]

/-- **A written year is read back.** -/
theorem year_render {y : Int} (hmin : minYear ≤ y) (hmax : y ≤ maxYear) {rest : List Char}
    (hrest : Stops isDigit rest) : year (renderYear y ++ rest) = .ok (y, rest) := by
  unfold minYear at hmin
  unfold maxYear at hmax
  have hdigits : ∀ n, ∀ c ∈ padded 4 n, isDigit c = true := fun n c hc => isDigit_of_mem_padded hc
  by_cases hplain : 0 ≤ y ∧ y ≤ 9999
  · have hread := number_run (hdigits y.toNat) (padded_ne_nil 4 y.toNat)
      (Nat.le_of_eq (length_padded (by decide) (show y.toNat < 10000 by omega))) hrest
    rw [ofDigits_padded] at hread
    -- the first digit is no sign
    obtain ⟨d, ds, hds⟩ := List.exists_cons_of_ne_nil (padded_ne_nil 4 y.toNat)
    have hd := ne_of_isDigit (hdigits y.toNat d (by rw [hds]; exact List.mem_cons_self))
    simp only [List.mem_cons, List.not_mem_nil, or_false, not_or] at hd
    rw [renderYear, if_pos hplain, year, trimStart_padded]
    rw [hds, List.cons_append] at hread ⊢
    split
    · simp_all
    · simp_all
    · simp only [hread, bind, Except.bind]
      rw [Int.toNat_of_nonneg hplain.1]
  · have hread := longNumber_run (hdigits y.natAbs) (padded_ne_nil 4 y.natAbs)
      (by rw [ofDigits_padded]; omega) hrest
    rw [ofDigits_padded] at hread
    rw [renderYear, if_neg hplain]
    by_cases hneg : y < 0
    · rw [if_pos hneg, List.cons_append, year, trimStart_sign (by decide)]
      have hle : y.natAbs ≤ 0x80000000 := by omega
      have hvalue : -(y.natAbs : Int) = y := by omega
      simp only [hread, bind, Except.bind, hle, if_true, hvalue]
    · rw [if_neg hneg, List.cons_append, year, trimStart_sign (by decide)]
      have hlt : y.natAbs < 0x80000000 := by omega
      have hvalue : (y.natAbs : Int) = y := by omega
      simp only [hread, bind, Except.bind, hlt, if_true, hvalue]

/-! ### Fractions of a second -/

/-- A fraction of a fixed width is taken as nanoseconds. -/
theorem fraction_padded {width m : Nat} (hpos : 0 < width) (hle : width ≤ 9)
    (h : m < Nat.pow 10 width) {rest : List Char} (hrest : Stops isDigit rest) :
    fraction ('.' :: (padded width m ++ rest)) = .ok (m * Nat.pow 10 (9 - width), rest) := by
  have hlen := length_padded hpos h
  have hread := number_run (fun c hc => isDigit_of_mem_padded hc) (padded_ne_nil width m)
    (Nat.le_trans (Nat.le_of_eq hlen) hle) hrest
  rw [ofDigits_padded] at hread
  have hdrop : ([] ++ rest).dropWhile isDigit = rest := Text.dropWhile_append_stop (by simp) hrest
  rw [List.nil_append] at hdrop
  have hwidth : (padded width m ++ rest).length - rest.length = width := by
    rw [List.length_append, hlen, Nat.add_sub_cancel]
  simp only [fraction, hread, bind, Except.bind, hdrop, hwidth]

/-- **A written fraction is read back.** -/
theorem fraction_render {nanos : Nat} (h : nanos < 1000000000) {rest : List Char}
    (hrest : Stops isDigit rest) (hpoint : rest.head? ≠ some '.') :
    fraction (renderFraction nanos ++ rest) = .ok (nanos, rest) := by
  unfold renderFraction
  split
  · rename_i hzero
    rw [List.nil_append, hzero]
    unfold fraction
    split
    · simp at hpoint
    · rfl
  split
  · have hfits : nanos / 1000000 < Nat.pow 10 3 := show nanos / 1000000 < 1000 by omega
    have hback : nanos / 1000000 * Nat.pow 10 (9 - 3) = nanos :=
      show nanos / 1000000 * 1000000 = nanos by omega
    rw [List.cons_append, fraction_padded (by decide) (by decide) hfits hrest, hback]
  split
  · have hfits : nanos / 1000 < Nat.pow 10 6 := show nanos / 1000 < 1000000 by omega
    have hback : nanos / 1000 * Nat.pow 10 (9 - 6) = nanos :=
      show nanos / 1000 * 1000 = nanos by omega
    rw [List.cons_append, fraction_padded (by decide) (by decide) hfits hrest, hback]
  · have hback : nanos * Nat.pow 10 (9 - 9) = nanos := Nat.mul_one nanos
    rw [List.cons_append, fraction_padded (by decide) (by decide) h hrest, hback]

/-! ### Offsets -/

/-- Two digits are taken as a number. -/
theorem twoDigits_padded {n : Nat} (h : n < 100) (rest : List Char) :
    twoDigits (padded 2 n ++ rest) = .ok (n, rest) := by
  have hlen : (padded 2 n).length = 2 := length_padded (by decide) h
  obtain ⟨a, bs, habs⟩ := List.exists_cons_of_ne_nil (padded_ne_nil 2 n)
  obtain ⟨b, rfl⟩ := List.length_eq_one_iff.1 (by simpa [habs] using hlen)
  have hdigits : ∀ c ∈ padded 2 n, isDigit c = true := fun c hc => isDigit_of_mem_padded hc
  have ha : isDigit a = true := hdigits a (by simp [habs])
  have hb : isDigit b = true := hdigits b (by simp [habs])
  have hvalue : ofDigits [a, b] = n := by rw [← habs, ofDigits_padded]
  have hsize : ¬ Utf8.size (a :: b :: rest) < 2 := by
    have hapos := a.utf8Size_pos
    have hbpos := b.utf8Size_pos
    simp only [Utf8.size]
    omega
  rw [habs, List.cons_append, List.cons_append, List.nil_append, twoDigits, if_neg hsize]
  simp only [ha, hb, Bool.and_self, if_true, hvalue]

/-- Hours and minutes with a colon between them are taken as minutes. -/
theorem hoursMinutes_padded {n : Nat} (h : n < 1440) :
    hoursMinutes (padded 2 (n / 60) ++ ':' :: padded 2 (n % 60)) = .ok (n, []) := by
  have hdrop : (':' :: padded 2 (n % 60)).dropWhile (fun c => c == ':' || Text.isBlank c) =
      padded 2 (n % 60) := by
    obtain ⟨d, ds, hds⟩ := List.exists_cons_of_ne_nil (padded_ne_nil 2 (n % 60))
    have hd : isDigit d = true := isDigit_of_mem_padded (by rw [hds]; exact List.mem_cons_self)
    have hcolon : d ≠ ':' := fun heq => ne_of_isDigit hd (by simp [heq])
    rw [List.dropWhile_cons_of_pos (by simp), hds,
      List.dropWhile_cons_of_neg (by simp [hcolon, isBlank_of_isDigit hd])]
  have hminutes := twoDigits_padded (n := n % 60) (by omega) []
  rw [List.append_nil] at hminutes
  have hlt : n % 60 < 60 := by omega
  simp only [hoursMinutes, twoDigits_padded (n := n / 60) (by omega), bind, Except.bind, hdrop,
    hminutes, hlt, if_true]
  congr 2
  omega

/-- **A written offset is read back.** -/
theorem offsetOf_render {offset : Int} (h : offset.natAbs < 1440) :
    offsetOf (renderOffset offset) = .ok (offset, []) := by
  have hread := hoursMinutes_padded h
  -- an offset that begins with a sign is not the name of universal time
  have hname : ∀ c ∈ ['-', '+'], ∀ s : List Char,
      ((c :: s).take 3).map Char.toUpper ≠ ['U', 'T', 'C'] := by
    intro c hc s heq
    have hnone : ['-', '+'].any (fun d => d.toUpper == 'U') = false := by decide
    simp only [List.take_succ_cons, List.map_cons, List.cons.injEq] at heq
    exact List.any_eq_false.1 hnone c hc (beq_iff_eq.2 heq.1)
  unfold renderOffset
  split
  · rename_i hzero
    rw [hzero]
    rfl
  split
  · have hvalue : -(offset.natAbs : Int) = offset := by omega
    rw [offsetOf, if_neg (hname '-' (by decide) _)]
    simp only [hread, Except.map, hvalue]
    rfl
  · have hvalue : (offset.natAbs : Int) = offset := by omega
    rw [offsetOf, if_neg (hname '+' (by decide) _)]
    simp only [hread, Except.map, hvalue]
    rfl

/-! ### Timestamps -/

def shownSecond (t : Timestamp) : Nat := t.second % 60 + if 1000000000 ≤ t.nanos then 1 else 0

theorem shownSecond_le (t : Timestamp) : t.shownSecond ≤ 60 := by
  unfold shownSecond
  split <;> omega

theorem shownSecond_eq_sixty_iff (t : Timestamp) : t.shownSecond = 60 ↔ 1000000000 ≤ t.nanos := by
  have hleap := t.leap
  unfold shownSecond
  split <;> omega

theorem renderChars_eq (t : Timestamp) :
    t.renderChars = renderYear t.date.year ++ '-' :: (padded 2 t.date.month ++ '-' ::
      (padded 2 t.date.day ++ 'T' :: (padded 2 (t.second / 3600) ++ ':' ::
        (padded 2 (t.second / 60 % 60) ++ ':' :: (padded 2 t.shownSecond ++
          (renderFraction (t.nanos % 1000000000) ++ renderOffset t.offset)))))) := by
  simp only [renderChars, shownSecond, List.append_assoc, List.cons_append]

theorem exists_renderOffset_eq_cons (offset : Int) :
    ∃ c s, renderOffset offset = c :: s ∧ c ∈ ['-', '+', 'Z'] := by
  unfold renderOffset
  split
  · exact ⟨'Z', [], rfl, by decide⟩
  · split
    · exact ⟨'-', _, rfl, by decide⟩
    · exact ⟨'+', _, rfl, by decide⟩

/-- What stands behind a second does not go on with it. -/
theorem stops_renderFraction (nanos : Nat) {rest : List Char} (h : Stops isDigit rest) :
    Stops isDigit (renderFraction nanos ++ rest) := by
  have hpoint : isDigit '.' = false := by decide
  unfold renderFraction
  split
  · exact h
  split
  · simp [hpoint]
  split
  · simp [hpoint]
  · simp [hpoint]

/-- The fraction and the offset at the end of a written timestamp are read back. -/
theorem fraction_offsetOf_render (t : Timestamp) :
    fraction (renderFraction (t.nanos % 1000000000) ++ renderOffset t.offset) =
        .ok (t.nanos % 1000000000, renderOffset t.offset) ∧
      offsetOf (Text.trimStart (renderOffset t.offset)) = .ok (t.offset, []) ∧
      Stops isDigit (renderOffset t.offset) := by
  obtain ⟨c, s, hcs, hc⟩ := exists_renderOffset_eq_cons t.offset
  have hdigit : ['-', '+', 'Z'].any isDigit = false := by decide
  have hstop : Stops isDigit (renderOffset t.offset) := by
    rw [hcs, Text.stops_cons]
    exact Bool.eq_false_iff.2 (List.any_eq_false.1 hdigit c hc)
  have hpoint : c ≠ '.' := by
    rintro rfl
    exact absurd hc (by decide)
  refine ⟨fraction_render (by omega) hstop (by simp [hcs, hpoint]), ?_, hstop⟩
  have hoffset := offsetOf_render t.offset_lt
  rw [hcs] at hoffset ⊢
  rw [trimStart_sign hc, hoffset]

theorem daysIn_le (year : Int) (month : Nat) : daysIn year month ≤ 31 := by
  unfold daysIn
  split
  · split <;> omega
  all_goals omega

/-- The reading of a clock is put together from what is written. -/
theorem ofLocal?_shown (t : Timestamp) :
    ofLocal? t.date
        (t.second / 3600 * 3600 + t.second / 60 % 60 * 60 +
          (t.shownSecond - if t.shownSecond = 60 then 1 else 0))
        (t.nanos % 1000000000 + (if t.shownSecond = 60 then 1 else 0) * 1000000000) t.offset =
      some t := by
  have hnanos := t.nanos_lt
  have hsixty := shownSecond_eq_sixty_iff t
  have hsecond : t.second / 3600 * 3600 + t.second / 60 % 60 * 60 +
      (t.shownSecond - if t.shownSecond = 60 then 1 else 0) = t.second := by
    by_cases hl : 1000000000 ≤ t.nanos
    · rw [if_pos (hsixty.2 hl), shownSecond, if_pos hl]
      omega
    · rw [if_neg (fun h => hl (hsixty.1 h)), shownSecond, if_neg hl]
      omega
  have hfraction : t.nanos % 1000000000 + (if t.shownSecond = 60 then 1 else 0) * 1000000000 =
      t.nanos := by
    by_cases hl : 1000000000 ≤ t.nanos
    · rw [if_pos (hsixty.2 hl)]
      omega
    · rw [if_neg (fun h => hl (hsixty.1 h))]
      omega
  rw [hsecond, hfraction]
  exact ofLocal?_self t

/-- **A written timestamp is read back**, clock reading and offset. -/
theorem parseChars_renderChars (t : Timestamp) : parseChars t.renderChars = .ok t := by
  obtain ⟨hymin, hymax, hmolow, hmohigh, hdlow, hdhigh⟩ := t.date.isDate
  have hdays := daysIn_le t.date.year t.date.month
  have hsecond := t.second_lt
  have hoffset := t.offset_lt
  obtain ⟨hfraction, hoffsetOf, hstop⟩ := fraction_offsetOf_render t
  have hseparator : ∀ d ∈ ['-', 'T', ':'], ∀ r, Stops isDigit (d :: r) := by
    intro d hd r
    have hdigit : ['-', 'T', ':'].any isDigit = false := by decide
    rw [Text.stops_cons]
    exact Bool.eq_false_iff.2 (List.any_eq_false.1 hdigit d hd)
  -- each reader meets what the writer of its part has put there
  have hyear : ∀ r, year (renderYear t.date.year ++ '-' :: r) = .ok (t.date.year, '-' :: r) :=
    fun r => year_render hymin hymax (hseparator '-' (by decide) r)
  have hmonth : ∀ r, field 1 12 (padded 2 t.date.month ++ '-' :: r) = .ok (t.date.month, '-' :: r) :=
    fun r => field_padded hmolow hmohigh (by omega) (hseparator '-' (by decide) r)
  have hday : ∀ r, field 1 31 (padded 2 t.date.day ++ 'T' :: r) = .ok (t.date.day, 'T' :: r) :=
    fun r => field_padded hdlow (by omega) (by omega) (hseparator 'T' (by decide) r)
  have hhour : ∀ r, field 0 23 (padded 2 (t.second / 3600) ++ ':' :: r) =
      .ok (t.second / 3600, ':' :: r) :=
    fun r => field_padded (Nat.zero_le _) (by omega) (by omega) (hseparator ':' (by decide) r)
  have hminute : ∀ r, field 0 59 (padded 2 (t.second / 60 % 60) ++ ':' :: r) =
      .ok (t.second / 60 % 60, ':' :: r) :=
    fun r => field_padded (Nat.zero_le _) (by omega) (by omega) (hseparator ':' (by decide) r)
  have hshown := shownSecond_le t
  have hsec := field_padded (Nat.zero_le t.shownSecond) hshown (by omega)
    (stops_renderFraction (t.nanos % 1000000000) hstop)
  have hdash : ∀ r, separator '-' ('-' :: r) = .ok r := separator_cons (by decide)
  have hcolon : ∀ r, separator ':' (':' :: r) = .ok r := separator_cons (by decide)
  have hletter : ∀ r, dateEnd ('T' :: r) = .ok r := fun r => rfl
  have hdate : Date.ofYmd? t.date.year t.date.month t.date.day = some t.date :=
    Date.ofYmd?_eq_some_iff.2 ⟨rfl, rfl, rfl⟩
  have hlimit : ¬ 1440 ≤ t.offset.natAbs := by omega
  rw [renderChars_eq, parseChars]
  simp only [bind, Except.bind, hyear, hdash, hmonth, hday, hletter, hhour, hcolon, hminute, hsec,
    hfraction, hoffsetOf, hdate, hlimit, if_false, ofLocal?_shown]
  rfl

/-- The text of a timestamp stands for it. -/
theorem parse_render (t : Timestamp) : parse t.render = .ok t := by
  rw [parse, render, String.toList_ofList]
  exact parseChars_renderChars t

end FirmwareCatalog.Timestamp
