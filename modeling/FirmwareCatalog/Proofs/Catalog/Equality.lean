/-
**Equal records and their texts.**

Records are compared field by field and list by list, and their dates by the instants that they
name, while the written text of a record keeps the offsets of its dates.  So equal records may have
different texts.  They have the same text once every date has been shown in universal time: there an
instant has only one date, and a text only one record.

What two records have to do with one another is said by a relation between their dates, with
everything else the same.  The laws of such relations — for equality of dates, for stronger
relations, turned round, and one after another — reduce all that is said about records to what is
said about one timestamp.

Main definitions:

* `Firmware.AlikeBy`, `Device.AlikeBy`, `Release.AlikeBy` — records that are the same but for their
  dates, and dates with a relation between them;
* `Lifts` — the laws of such relations;
* `Timestamp.SameInstant`, `Timestamp.ShownIn`, `Timestamp.ShownAnew` — the relations between dates;
* `ComparesInstants` — what it means that equality compares instants.

Main results:

* `Firmware.beq_iff`, `Device.beq_iff`, `Release.beq_iff` — equality, kind by kind;
* `equality_by_instant` — **records are equal exactly if their texts in universal time are**.
-/
import FirmwareCatalog.Proofs.Catalog.RoundTrip
import FirmwareCatalog.Proofs.Timestamp.Offsets
import Mathlib.Data.List.Forall2
import Mathlib.Logic.Relation

set_option relaxedAutoImplicit false
set_option autoImplicit false

namespace FirmwareCatalog

open Relation (Comp)

variable {α : Type}

/-! ### Relations between dates -/

namespace Timestamp

/-- The timestamps name one instant. -/
def SameInstant (s t : Timestamp) : Prop := s.instant = t.instant

/-- The second timestamp is the first one as the clock with the offset shows it. -/
def ShownIn (offset : Int) (s t : Timestamp) : Prop := s.inOffset? offset = some t

/-- The second timestamp is the first one as some clock shows it. -/
def ShownAnew (s t : Timestamp) : Prop := ∃ offset, ShownIn offset s t

theorem ShownIn.sameInstant {offset : Int} {s t : Timestamp} (h : ShownIn offset s t) :
    SameInstant s t := (inOffset?_eq_some_iff.1 h).1.symm

theorem exists_shownIn_zero (t : Timestamp) : ∃ t', ShownIn 0 t t' := by
  refine ⟨t.toUtc, inOffset?_eq_some_iff.2 ⟨t.toUtc_instant, rfl⟩⟩

theorem ShownIn.eq_iff {offset : Int} {s t s' t' : Timestamp} (hs : ShownIn offset s s')
    (ht : ShownIn offset t t') : s' = t' ↔ SameInstant s t := by
  constructor
  · rintro rfl
    exact hs.sameInstant.trans ht.sameInstant.symm
  · intro h
    have hsame : some s' = some t' := by rw [← hs, ← ht, inOffset?_congr h]
    exact Option.some.inj hsame

end Timestamp

/-! ### Laws -/

/-- The laws of relations between values that are lifted from relations between dates. -/
structure Lifts (alike : (Timestamp → Timestamp → Prop) → α → α → Prop) : Prop where
  /-- Values with the same dates are the same. -/
  eq_iff : ∀ a b, alike Eq a b ↔ a = b
  /-- What is said about dates may be weakened. -/
  mono : ∀ {R S : Timestamp → Timestamp → Prop}, (∀ s t, R s t → S s t) →
    ∀ a b, alike R a b → alike S a b
  /-- What is said about dates may be turned round. -/
  flip : ∀ {R : Timestamp → Timestamp → Prop}, ∀ a b, alike R a b → alike (flip R) b a
  /-- What is said about dates may be chained. -/
  comp : ∀ {R S : Timestamp → Timestamp → Prop}, ∀ a b c,
    alike R a b → alike S b c → alike (Comp R S) a c
  /-- What can be done to every date can be done to a value. -/
  total : ∀ {R : Timestamp → Timestamp → Prop}, (∀ t, ∃ t', R t t') → ∀ a, ∃ b, alike R a b

/-- A date that may be missing. -/
theorem lifts_option : Lifts fun (R : Timestamp → Timestamp → Prop) => Option.Rel R where
  eq_iff a b := by
    constructor
    · intro h
      cases h with
      | some h => exact congrArg some h
      | none => rfl
    · rintro rfl
      cases a with
      | none => exact .none
      | some t => exact .some rfl
  mono hR a b h := by
    cases h with
    | some h => exact .some (hR _ _ h)
    | none => exact .none
  flip a b h := by
    cases h with
    | some h => exact .some h
    | none => exact .none
  comp a b c h h' := by
    cases h with
    | some h =>
        cases h' with
        | some h' => exact .some ⟨_, h, h'⟩
    | none =>
        cases h' with
        | none => exact .none
  total hR a := by
    cases a with
    | none => exact ⟨none, .none⟩
    | some t =>
        obtain ⟨t', ht'⟩ := hR t
        exact ⟨some t', .some ht'⟩

/-- The items of a list, one by one. -/
theorem Lifts.list {alike : (Timestamp → Timestamp → Prop) → α → α → Prop} (h : Lifts alike) :
    Lifts fun R => List.Forall₂ (alike R) where
  eq_iff as bs := by
    have heq : alike Eq = Eq := by
      ext a b
      exact h.eq_iff a b
    rw [heq, List.forall₂_eq_eq_eq]
  mono hR as bs hall := hall.imp fun a b hab => h.mono hR a b hab
  flip as bs hall := by
    induction hall with
    | nil => exact .nil
    | cons head _ ih => exact .cons (h.flip _ _ head) ih
  comp as bs cs hall hall' := by
    induction hall generalizing cs with
    | nil =>
        cases hall' with
        | nil => exact .nil
    | cons head _ ih =>
        cases hall' with
        | cons head' tail' => exact .cons (h.comp _ _ _ head head') (ih _ tail')
  total hR as := by
    induction as with
    | nil => exact ⟨[], .nil⟩
    | cons a as ih =>
        obtain ⟨b, hb⟩ := h.total hR a
        obtain ⟨bs, hbs⟩ := ih
        exact ⟨b :: bs, .cons hb hbs⟩

/-! ### Records -/

/-- The firmwares are the same but for their dates, and these are related. -/
structure Firmware.AlikeBy (R : Timestamp → Timestamp → Prop) (a b : Firmware) : Prop where
  rest : { a with released := none, uploaded := none } = { b with released := none, uploaded := none }
  released : Option.Rel R a.released b.released
  uploaded : Option.Rel R a.uploaded b.uploaded

/-- The devices are the same but for their histories, and these are alike entry by entry. -/
structure Device.AlikeBy (R : Timestamp → Timestamp → Prop) (a b : Device) : Prop where
  rest : { a with firmwares := [] } = { b with firmwares := [] }
  firmwares : List.Forall₂ (Firmware.AlikeBy R) a.firmwares b.firmwares

/-- The releases are the same but for their dates, and these are related. -/
structure Release.AlikeBy (R : Timestamp → Timestamp → Prop) (a b : Release) : Prop where
  rest : { a with released := none } = { b with released := none }
  released : Option.Rel R a.released b.released

theorem Firmware.lifts : Lifts AlikeBy where
  eq_iff a b := by
    constructor
    · rintro ⟨hrest, hreleased, huploaded⟩
      have hreleased := (lifts_option.eq_iff _ _).1 hreleased
      have huploaded := (lifts_option.eq_iff _ _).1 huploaded
      cases a
      cases b
      cases hreleased
      cases huploaded
      cases hrest
      rfl
    · rintro rfl
      exact ⟨rfl, (lifts_option.eq_iff _ _).2 rfl, (lifts_option.eq_iff _ _).2 rfl⟩
  mono hR a b h :=
    ⟨h.rest, lifts_option.mono hR _ _ h.released, lifts_option.mono hR _ _ h.uploaded⟩
  flip a b h := ⟨h.rest.symm, lifts_option.flip _ _ h.released, lifts_option.flip _ _ h.uploaded⟩
  comp a b c h h' :=
    ⟨h.rest.trans h'.rest, lifts_option.comp _ _ _ h.released h'.released,
      lifts_option.comp _ _ _ h.uploaded h'.uploaded⟩
  total hR a := by
    obtain ⟨released, hreleased⟩ := lifts_option.total hR a.released
    obtain ⟨uploaded, huploaded⟩ := lifts_option.total hR a.uploaded
    exact ⟨{ a with released := released, uploaded := uploaded }, rfl, hreleased, huploaded⟩

theorem Device.lifts : Lifts AlikeBy where
  eq_iff a b := by
    constructor
    · rintro ⟨hrest, hfirmwares⟩
      have hfirmwares := (Firmware.lifts.list.eq_iff _ _).1 hfirmwares
      cases a
      cases b
      cases hfirmwares
      cases hrest
      rfl
    · rintro rfl
      exact ⟨rfl, (Firmware.lifts.list.eq_iff _ _).2 rfl⟩
  mono hR a b h := ⟨h.rest, Firmware.lifts.list.mono hR _ _ h.firmwares⟩
  flip a b h := ⟨h.rest.symm, Firmware.lifts.list.flip _ _ h.firmwares⟩
  comp a b c h h' :=
    ⟨h.rest.trans h'.rest, Firmware.lifts.list.comp _ _ _ h.firmwares h'.firmwares⟩
  total hR a := by
    obtain ⟨firmwares, hfirmwares⟩ := Firmware.lifts.list.total hR a.firmwares
    exact ⟨{ a with firmwares := firmwares }, rfl, hfirmwares⟩

theorem Release.lifts : Lifts AlikeBy where
  eq_iff a b := by
    constructor
    · rintro ⟨hrest, hreleased⟩
      have hreleased := (lifts_option.eq_iff _ _).1 hreleased
      cases a
      cases b
      cases hreleased
      cases hrest
      rfl
    · rintro rfl
      exact ⟨rfl, (lifts_option.eq_iff _ _).2 rfl⟩
  mono hR a b h := ⟨h.rest, lifts_option.mono hR _ _ h.released⟩
  flip a b h := ⟨h.rest.symm, lifts_option.flip _ _ h.released⟩
  comp a b c h h' := ⟨h.rest.trans h'.rest, lifts_option.comp _ _ _ h.released h'.released⟩
  total hR a := by
    obtain ⟨released, hreleased⟩ := lifts_option.total hR a.released
    exact ⟨{ a with released := released }, rfl, hreleased⟩

/-! ### Equality -/

/-- Dates that may be missing are compared by their instants. -/
theorem Timestamp.beq_option_iff (a b : Option Timestamp) :
    (a == b) = true ↔ Option.Rel SameInstant a b := by
  cases a with
  | none =>
      cases b with
      | none => exact iff_of_true rfl .none
      | some t => exact iff_of_false Bool.false_ne_true (by intro h; cases h)
  | some s =>
      cases b with
      | none => exact iff_of_false Bool.false_ne_true (by intro h; cases h)
      | some t =>
          rw [Option.rel_some_some]
          exact beq_iff

/-- **Firmwares are compared field by field**, and their dates by instants. -/
theorem Firmware.beq_iff (a b : Firmware) :
    (a == b) = true ↔ AlikeBy Timestamp.SameInstant a b := by
  cases a
  cases b
  change instBEqFirmware.beq _ _ = true ↔ _
  simp only [instBEqFirmware.beq, Bool.and_eq_true, beq_iff_eq, Timestamp.beq_option_iff]
  constructor
  · rintro ⟨rfl, rfl, rfl, rfl, rfl, rfl, rfl, hreleased, huploaded, rfl⟩
    exact ⟨rfl, hreleased, huploaded⟩
  · rintro ⟨hrest, hreleased, huploaded⟩
    cases hrest
    exact ⟨rfl, rfl, rfl, rfl, rfl, rfl, rfl, hreleased, huploaded, rfl⟩

theorem Firmware.beq_list_iff (as bs : List Firmware) :
    (as == bs) = true ↔ List.Forall₂ (AlikeBy Timestamp.SameInstant) as bs := by
  induction as generalizing bs with
  | nil => cases bs <;> simp
  | cons a as ih =>
      cases bs with
      | nil => simp
      | cons b bs =>
          rw [List.cons_beq_cons, Bool.and_eq_true, List.forall₂_cons, ih, beq_iff]

/-- **Devices are compared field by field**, and their histories entry by entry. -/
theorem Device.beq_iff (a b : Device) : (a == b) = true ↔ AlikeBy Timestamp.SameInstant a b := by
  cases a
  cases b
  change instBEqDevice.beq _ _ = true ↔ _
  simp only [instBEqDevice.beq, Bool.and_eq_true, beq_iff_eq, Firmware.beq_list_iff]
  constructor
  · rintro ⟨rfl, rfl, rfl, rfl, rfl, rfl, hfirmwares⟩
    exact ⟨rfl, hfirmwares⟩
  · rintro ⟨hrest, hfirmwares⟩
    cases hrest
    exact ⟨rfl, rfl, rfl, rfl, rfl, rfl, hfirmwares⟩

/-- **Releases are compared field by field**, and their dates by instants. -/
theorem Release.beq_iff (a b : Release) :
    (a == b) = true ↔ AlikeBy Timestamp.SameInstant a b := by
  cases a
  cases b
  change instBEqRelease.beq _ _ = true ↔ _
  simp only [instBEqRelease.beq, Bool.and_eq_true, beq_iff_eq, Timestamp.beq_option_iff]
  constructor
  · rintro ⟨rfl, rfl, hreleased, rfl, rfl, rfl, rfl⟩
    exact ⟨rfl, hreleased⟩
  · rintro ⟨hrest, hreleased⟩
    cases hrest
    exact ⟨rfl, rfl, hreleased, rfl, rfl, rfl, rfl⟩

/-! ### Texts -/

theorem eq_of_render_eq {decoder : Json.Decoder α} {toJson : α → Json}
    (hread : ∀ a, Json.Reads decoder (toJson a) a) {a b : α}
    (h : (toJson a).render = (toJson b).render) : a = b := by
  have hsame : Json.decode decoder (toJson a).render = .ok b := by
    rw [h, Json.decode_render (hread b)]
  rw [Json.decode_render (hread a)] at hsame
  exact Except.ok.inj hsame

/-- Equality of values compares instants: two values are equal exactly if they are the same but for
their dates, and these name the same instants. -/
structure ComparesInstants [BEq α] (alike : (Timestamp → Timestamp → Prop) → α → α → Prop)
    (write? : α → Option String) : Prop where
  /-- Every value has a text. -/
  exists_text : ∀ a, ∃ s, write? a = some s
  /-- Everything but the dates is compared as it is, and dates by their instants. -/
  beq_iff : ∀ a b, (a == b) = true ↔ alike Timestamp.SameInstant a b
  /-- The dates of a value can all be shown in universal time, in one way. -/
  exists_utc : ∀ a, ∃ a', alike (Timestamp.ShownIn 0) a a' ∧
    ∀ a'', alike (Timestamp.ShownIn 0) a a'' → a'' = a'
  /-- Values are equal exactly if they have one text when their dates are shown in universal time.
  -/
  beq_iff_text : ∀ a b a' b', alike (Timestamp.ShownIn 0) a a' → alike (Timestamp.ShownIn 0) b b' →
    ((a == b) = true ↔ write? a' = write? b')
  /-- Showing dates on other clocks, each on its own, does not change what a value is equal to. -/
  beq_of_shown : ∀ a a', alike Timestamp.ShownAnew a a' → ∀ b, (a == b) = (a' == b)

/-- Equality that compares everything but the dates as it is compares instants. -/
theorem Lifts.comparesInstants [BEq α] {alike : (Timestamp → Timestamp → Prop) → α → α → Prop}
    (h : Lifts alike) {decoder : Json.Decoder α} {toJson : α → Json}
    (hread : ∀ a, Json.Reads decoder (toJson a) a)
    (hbeq : ∀ a b : α, (a == b) = true ↔ alike Timestamp.SameInstant a b) :
    ComparesInstants alike fun a => some (toJson a).render := by
  -- values shown in universal time are equal exactly if the values are
  have hutc {a b a' b' : α} (ha : alike (Timestamp.ShownIn 0) a a')
      (hb : alike (Timestamp.ShownIn 0) b b') : alike Timestamp.SameInstant a b ↔ a' = b' := by
    constructor
    · intro hab
      refine (h.eq_iff _ _).1 (h.mono ?_ _ _ (h.comp _ _ _ (h.flip _ _ ha) (h.comp _ _ _ hab hb)))
      rintro s' t' ⟨s, hs, t, hst, ht⟩
      exact (Timestamp.ShownIn.eq_iff hs ht).2 hst
    · rintro rfl
      refine h.mono ?_ _ _ (h.comp _ _ _ ha (h.flip _ _ hb))
      rintro s t ⟨u, hs, ht⟩
      exact (Timestamp.ShownIn.eq_iff hs ht).1 rfl
  have hrefl (a : α) : alike Timestamp.SameInstant a a := by
    refine h.mono ?_ _ _ ((h.eq_iff a a).2 rfl)
    rintro s t rfl
    rfl
  refine ⟨fun a => ⟨_, rfl⟩, hbeq, fun a => ?_, fun a b a' b' ha hb => ?_, fun a a' ha b => ?_⟩
  · obtain ⟨a', ha'⟩ := h.total Timestamp.exists_shownIn_zero a
    exact ⟨a', ha', fun a'' ha'' => (hutc ha'' ha').1 (hrefl a)⟩
  · rw [hbeq, hutc ha hb]
    constructor
    · rintro rfl
      rfl
    · intro htext
      exact eq_of_render_eq hread (Option.some.inj htext)
  · have hsame : alike Timestamp.SameInstant a a' := by
      refine h.mono ?_ _ _ ha
      rintro s t ⟨offset, hst⟩
      exact hst.sameInstant
    rw [Bool.eq_iff_iff, hbeq, hbeq]
    constructor
    · intro hab
      refine h.mono ?_ _ _ (h.comp _ _ _ (h.flip _ _ hsame) hab)
      rintro s t ⟨u, hs, ht⟩
      exact hs.symm.trans ht
    · intro hab
      refine h.mono ?_ _ _ (h.comp _ _ _ hsame hab)
      rintro s t ⟨u, hs, ht⟩
      exact hs.trans ht

/-- **Records are equal exactly if their texts in universal time are.**  Devices, firmwares and
releases are equal if all that is no date is the same, lists in their order and length, and the
dates name the same instants.  With all dates shown in universal time, equal records have one text,
and others do not; and whichever clocks the dates are shown on, a record is equal to the same ones.
A date is shown on a clock by going to its day and second there: that is the one date with the
offset of the clock that names the instant, and there is none only for offsets of a day or more and
behind the ends of the calendar. -/
theorem equality_by_instant :
    ComparesInstants Device.AlikeBy DocumentKind.device.write? ∧
    ComparesInstants Firmware.AlikeBy DocumentKind.firmware.write? ∧
    ComparesInstants Release.AlikeBy DocumentKind.release.write? ∧
    ∀ (t : Timestamp) (offset : Int),
      (∀ t', t.ShownIn offset t' ↔ t.SameInstant t' ∧ t'.offset = offset) ∧
      ((∃ t', t.ShownIn offset t') ↔
        offset.natAbs < 1440 ∧
          Date.first.dayNumber * 86400 ≤ t.instant.seconds + offset * 60 ∧
          t.instant.seconds + offset * 60 < (Date.last.dayNumber + 1) * 86400) := by
  refine ⟨Device.lifts.comparesInstants Device.reads_toJson Device.beq_iff,
    Firmware.lifts.comparesInstants Firmware.reads_toJson Firmware.beq_iff,
    Release.lifts.comparesInstants Release.reads_toJson Release.beq_iff, fun t offset => ⟨fun t' => ?_,
      Timestamp.exists_inOffset?_iff⟩⟩
  rw [Timestamp.SameInstant, eq_comm]
  exact Timestamp.inOffset?_eq_some_iff

/-- The last half hour of a leap day, in universal time. -/
def leapDay : Timestamp where
  date := ⟨2024, 2, 29, by decide⟩
  second := 84600
  nanos := 0
  offset := 0
  second_lt := by decide
  nanos_lt := by decide
  leap := by decide
  offset_lt := Timestamp.utc_offset_lt
  inRange := by decide

/-- The same instant an hour further east, in the next month. -/
def dayAfter : Timestamp where
  date := ⟨2024, 3, 1, by decide⟩
  second := 1800
  nanos := 0
  offset := 60
  second_lt := by decide
  nanos_lt := by decide
  leap := by decide
  offset_lt := by decide
  inRange := by decide

theorem equality_by_instant_leapDay :
    (({ released := some leapDay } : Firmware) == { released := some dayAfter }) = true ∧
    DocumentKind.firmware.write? { released := some leapDay } ≠
      DocumentKind.firmware.write? { released := some dayAfter } ∧
    ¬ (({ released := some leapDay } : Firmware) ==
      { released := some { leapDay with nanos := 1, nanos_lt := by decide, leap := by decide } }) =
        true := by
  obtain ⟨-, hfirmware, -, hclock⟩ := equality_by_instant
  have hsame : leapDay.instant = dayAfter.instant := by decide
  have hshown : leapDay.ShownIn 60 dayAfter := ((hclock leapDay 60).1 dayAfter).2 ⟨hsame, rfl⟩
  refine ⟨?_, ?_, ?_⟩
  · exact (hfirmware.beq_iff _ _).2 ⟨rfl, .some hshown.sameInstant, .none⟩
  · intro htext
    have hrecords := eq_of_render_eq Firmware.reads_toJson (Option.some.inj htext)
    have hdates : some leapDay = some dayAfter := congrArg Firmware.released hrecords
    have hoffset : leapDay.offset = dayAfter.offset := by rw [Option.some.inj hdates]
    cases hoffset
  · intro hequal
    have hdates := ((hfirmware.beq_iff _ _).1 hequal).released
    have hinstant := Option.rel_some_some.1 hdates
    cases (Instant.mk.inj hinstant).2

end FirmwareCatalog
