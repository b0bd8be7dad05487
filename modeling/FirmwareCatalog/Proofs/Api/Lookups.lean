/-
**First matches.**

Three lookups pick one entry of a list by a text: the build of a version for one device, and the
firmware of a history with a build or with a version.  Each of them takes the first entry that has
exactly this text, so that an entry that comes again further down never counts, and a text that only
begins like it never does.  A field that a catalog leaves out is the empty text, and is found by it.

The list for a version has to be asked for first.  Nothing else is asked, and what goes wrong with
that one question is passed on as it is.

Main definitions:

* `IsFirst` — the first item of a list that fits.

Main results:

* `find?_eq_some_iff_isFirst` — what is picked is the first item that fits;
* `Client.buildOfVersion_ok_iff`, `Client.buildOfVersion_session` — the build of a version for one
  device, and what the question leaves behind;
* `Client.buildOfVersion_first` — **the lookups take first matches**, and agree where there is only
  one entry of a version.
-/
import FirmwareCatalog.Proofs.Api.Failure
import Mathlib.Data.List.Basic

set_option relaxedAutoImplicit false
set_option autoImplicit false

namespace FirmwareCatalog

variable {σ α : Type}

/-! ### Lists -/

/-- The first item of a list that fits. -/
def IsFirst (fits : α → Prop) (items : List α) (a : α) : Prop :=
  ∃ before after, items = before ++ a :: after ∧ fits a ∧ ∀ x ∈ before, ¬ fits x

/-- **What is picked is the first item that fits.** -/
theorem find?_eq_some_iff_isFirst {fits : α → Prop} {test : α → Bool}
    (htest : ∀ a, test a = true ↔ fits a) {items : List α} {a : α} :
    items.find? test = some a ↔ IsFirst fits items a := by
  have hnot (x : α) : (!test x) = true ↔ ¬ fits x := by
    rw [Bool.not_eq_true', ← htest, Bool.not_eq_true]
  simp only [List.find?_eq_some_iff_append, htest, hnot, IsFirst]
  constructor
  · rintro ⟨ha, before, after, hsplit, hbefore⟩
    exact ⟨before, after, hsplit, ha, hbefore⟩
  · rintro ⟨before, after, hsplit, ha, hbefore⟩
    exact ⟨ha, before, after, hsplit, hbefore⟩

theorem IsFirst.mem {fits : α → Prop} {items : List α} {a : α} (h : IsFirst fits items a) :
    a ∈ items ∧ fits a := by
  obtain ⟨before, after, rfl, ha, -⟩ := h
  exact ⟨List.mem_append_right before List.mem_cons_self, ha⟩

theorem isFirst_of_unique {fits : α → Prop} {items : List α} {a : α} (hmem : a ∈ items)
    (ha : fits a) (hunique : ∀ x ∈ items, fits x → x = a) : IsFirst fits items a := by
  -- the list is cut at the first place where the item stands
  obtain ⟨before, after, rfl, hbefore⟩ := List.eq_append_cons_of_mem hmem
  refine ⟨before, after, rfl, ha, ?_⟩
  intro x hx hfits
  have hsame : x = a := hunique x (List.mem_append_left _ hx) hfits
  subst hsame
  exact hbefore hx

/-! ### Histories -/

namespace Device

variable {d : Device} {fw : Firmware}

theorem firmwareByBuild?_iff_isFirst {build : String} :
    d.firmwareByBuild? build = some fw ↔ IsFirst (·.build = build) d.firmwares fw :=
  find?_eq_some_iff_isFirst fun _ => beq_iff_eq

theorem firmwareByVersion?_iff_isFirst {version : String} :
    d.firmwareByVersion? version = some fw ↔ IsFirst (·.version = version) d.firmwares fw :=
  find?_eq_some_iff_isFirst fun _ => beq_iff_eq

theorem firmwareByVersion?_eq_none_iff {version : String} :
    d.firmwareByVersion? version = none ↔ ∀ x ∈ d.firmwares, x.version ≠ version := by
  simp [firmwareByVersion?]

theorem firmwareByVersion?_of_firmwareByBuild? {build : String}
    (h : d.firmwareByBuild? build = some fw)
    (hunique : ∀ x ∈ d.firmwares, x.version = fw.version → x = fw) :
    d.firmwareByVersion? fw.version = some fw := by
  have hmem : fw ∈ d.firmwares := (firmwareByBuild?_iff_isFirst.1 h).mem.1
  exact firmwareByVersion?_iff_isFirst.2 (isFirst_of_unique hmem rfl hunique)

end Device

/-! ### The build of a version -/

namespace Client

variable {c : Client} {version identifier : String} {s s' : Session σ}

/-- **The build of a version is that of the first firmware for the device.** -/
theorem buildOfVersion_ok_iff {build : String} :
    (c.buildOfVersion version identifier).run s = (.ok build, s') ↔
      ∃ fws fw, (c.firmwares version).run s = (.ok fws, s') ∧
        IsFirst (·.identifier = identifier) fws fw ∧ fw.build = build := by
  have hfirst {fws : List Firmware} {fw : Firmware} :
      fws.find? (fun fw => fw.identifier == identifier) = some fw ↔
        IsFirst (·.identifier = identifier) fws fw :=
    find?_eq_some_iff_isFirst fun _ => beq_iff_eq
  rw [buildOfVersion, Call.run_bind_ok_iff]
  constructor
  · rintro ⟨fws, s₁, hread, hrest⟩
    obtain ⟨fw, s₂, hfind, hpure⟩ := Call.run_bind_ok_iff.1 hrest
    obtain ⟨hfound, rfl⟩ := Call.run_first_ok_iff.1 hfind
    cases hpure
    exact ⟨fws, fw, hread, hfirst.1 hfound, rfl⟩
  · rintro ⟨fws, fw, hread, hfound, rfl⟩
    refine ⟨fws, s', hread, Call.run_bind_ok_iff.2 ⟨fw, s', ?_, rfl⟩⟩
    exact Call.run_first_ok_iff.2 ⟨hfirst.2 hfound, rfl⟩

/-- **Nothing but the firmwares of the version is asked for**: the question leaves the session that
asking for them leaves. -/
theorem buildOfVersion_session (c : Client) (version identifier : String) (s : Session σ) :
    ((c.buildOfVersion version identifier).run s).2 = ((c.firmwares version).run s).2 := by
  rcases hrun : (c.buildOfVersion version identifier).run s with ⟨result, s'⟩
  cases result with
  | ok build =>
      obtain ⟨fws, fw, hread, -, -⟩ := buildOfVersion_ok_iff.1 hrun
      rw [hread]
  | error e =>
      rcases buildOfVersion_error_iff.1 hrun with hread | ⟨fws, hread, -, -⟩
      · rw [hread]
      · rw [hread]

theorem firmwares_ne_notFound {text : String} :
    (c.firmwares version).run s ≠ (.error (.notFound text), s') := by
  intro hrun
  have hdirect : (ApiError.notFound text).IsDirect := (get_error_eq_iff.1 hrun).isDirect
  cases hdirect

/-- **The build of a version is not there** exactly if the firmwares of the version are read, and
none of them is for the device. -/
theorem buildOfVersion_notFound_iff {text : String} :
    (c.buildOfVersion version identifier).run s = (.error (.notFound text), s') ↔
      (∃ fws, (c.firmwares version).run s = (.ok fws, s') ∧
        ∀ fw ∈ fws, fw.identifier ≠ identifier) ∧
      text = "no build found for version " ++ version ++ " and device " ++ identifier := by
  rw [buildOfVersion_error_iff, or_iff_right firmwares_ne_notFound]
  constructor
  · rintro ⟨fws, hread, hnone, he⟩
    exact ⟨⟨fws, hread, hnone⟩, ApiError.notFound.inj he⟩
  · rintro ⟨⟨fws, hread, hnone⟩, rfl⟩
    exact ⟨fws, hread, hnone, rfl⟩

theorem buildOfVersion_otherError_iff {e : ApiError} (hother : ∀ text, e ≠ .notFound text) :
    (c.buildOfVersion version identifier).run s = (.error e, s') ↔
      (c.firmwares version).run s = (.error e, s') := by
  rw [buildOfVersion_error_iff]
  refine or_iff_left ?_
  rintro ⟨fws, -, -, he⟩
  exact hother _ he

/-- **The lookups take first matches.**  The question for the build of a version sends the request
for the firmwares of that version and nothing else, and leaves the session as that request does.
Its result is the build of the first of these firmwares that has the name of the device; it is not
there exactly if they are read and none has this name; and any other error is the one of the
request.  In the same way a device finds the first firmware of its history with a build, or with a
version, and none exactly if no firmware has it.  So a firmware that is found by its build is also
found by its version, if the history has no other one of this version. -/
theorem buildOfVersion_first (c : Client) (version identifier : String) (s s' : Session σ) :
    (((c.buildOfVersion version identifier).run s).2 = ((c.firmwares version).run s).2 ∧
      ((c.buildOfVersion version identifier).run s).2.log =
        s.log ++ c.requests [.firmwares version]) ∧
    (∀ build, (c.buildOfVersion version identifier).run s = (.ok build, s') ↔
      ∃ fws fw, (c.firmwares version).run s = (.ok fws, s') ∧
        IsFirst (·.identifier = identifier) fws fw ∧ fw.build = build) ∧
    (∀ text, (c.buildOfVersion version identifier).run s = (.error (.notFound text), s') ↔
      (∃ fws, (c.firmwares version).run s = (.ok fws, s') ∧
        ∀ fw ∈ fws, fw.identifier ≠ identifier) ∧
      text = "no build found for version " ++ version ++ " and device " ++ identifier) ∧
    (∀ e, (∀ text, e ≠ .notFound text) →
      ((c.buildOfVersion version identifier).run s = (.error e, s') ↔
        (c.firmwares version).run s = (.error e, s'))) ∧
    ∀ (d : Device) (fw : Firmware),
      (∀ build, (d.firmwareByBuild? build = some fw ↔ IsFirst (·.build = build) d.firmwares fw) ∧
        (d.firmwareByBuild? build = none ↔ ∀ x ∈ d.firmwares, x.build ≠ build)) ∧
      (∀ version,
        (d.firmwareByVersion? version = some fw ↔ IsFirst (·.version = version) d.firmwares fw) ∧
        (d.firmwareByVersion? version = none ↔ ∀ x ∈ d.firmwares, x.version ≠ version)) ∧
      ∀ build, d.firmwareByBuild? build = some fw →
        (∀ x ∈ d.firmwares, x.version = fw.version → x = fw) →
          d.firmwareByVersion? fw.version = some fw := by
  have hsession := buildOfVersion_session c version identifier s
  refine ⟨⟨hsession, ?_⟩, fun build => buildOfVersion_ok_iff, fun text => buildOfVersion_notFound_iff,
    fun e => buildOfVersion_otherError_iff, fun d fw => ⟨fun build => ?_, fun version => ?_,
      fun build => Device.firmwareByVersion?_of_firmwareByBuild?⟩⟩
  · rw [hsession]
    exact get_log c _ (.firmwares version) s
  · exact ⟨Device.firmwareByBuild?_iff_isFirst, Device.firmwareByBuild?_eq_none_iff⟩
  · exact ⟨Device.firmwareByVersion?_iff_isFirst, Device.firmwareByVersion?_eq_none_iff⟩

def repeatedText : String :=
  "[\x7b\"identifier\":\"iPhone14,60\",\"buildid\":\"19E241\"\x7d," ++
    "\x7b\"identifier\":\"iPhone14,6\",\"buildid\":\"19E258\"\x7d," ++
    "\x7b\"identifier\":\"iPhone14,6\",\"buildid\":\"19F77\"\x7d]"

theorem buildOfVersion_first_repeated :
    (((loopback []).buildOfVersion "15.4" "iPhone14,6").run (.start (.saying repeatedText) ())).1 =
      .ok "19E258" ∧
    (((loopback []).buildOfVersion "15.4" "iPhone14").run (.start (.saying repeatedText) ())).1 =
      .error (.notFound "no build found for version 15.4 and device iPhone14") ∧
    (((loopback []).buildOfVersion "15.4" "iPhone14,6").run
      (.start ⟨fun _ _ => (.failure .refused, ())⟩ ())).1 = .error (.transport .refused
        ((loopback []).request (.firmwares "15.4")).url.render) ∧
    ({ firmwares := [{ version := "15.4.1", build := "19E258" },
      { version := "15.4", build := "19E241" }] } : Device).firmwareByVersion? "15.4" =
        some { version := "15.4", build := "19E241" } := by
  let other : Firmware := { identifier := "iPhone14,60", build := "19E241" }
  let first : Firmware := { identifier := "iPhone14,6", build := "19E258" }
  let next : Firmware := { identifier := "iPhone14,6", build := "19F77" }
  let newer : Firmware := { version := "15.4.1", build := "19E258" }
  let older : Firmware := { version := "15.4", build := "19E241" }
  have hread : (DocumentKind.list .firmware).read repeatedText = .ok [other, first, next] := by cbv
  have hsent : ((loopback []).request (.firmwares "15.4")).isSendable = true := by decide
  have hrun := (isAnswered_saying hsent repeatedText).get_ok hread
  obtain ⟨-, hok, -, -, -⟩ := buildOfVersion_first (loopback []) "15.4" "iPhone14,6"
    (.start (.saying repeatedText) ()) _
  obtain ⟨-, -, hmissing, -, hdevice⟩ := buildOfVersion_first (loopback []) "15.4" "iPhone14"
    (.start (.saying repeatedText) ()) _
  obtain ⟨-, -, -, herror, -⟩ := buildOfVersion_first (loopback []) "15.4" "iPhone14,6"
    (.start ⟨fun _ _ => (.failure .refused, ())⟩ ()) _
  obtain ⟨hbuild, -, hversion⟩ := hdevice { firmwares := [newer, older] } older
  refine ⟨congrArg Prod.fst ((hok _).2 ⟨_, first, hrun, ?_, rfl⟩),
    congrArg Prod.fst ((hmissing _).2 ⟨⟨[other, first, next], hrun, ?_⟩, rfl⟩),
    congrArg Prod.fst ((herror _ ?_).2 rfl), hversion "19E241" ?_ ?_⟩
  · exact ⟨[other], [next], rfl, rfl, by simp [other]⟩
  · simp [other, first, next]
  · intro text h
    cases h
  · exact (hbuild _).1.2 ⟨[newer], [], rfl, rfl, by simp [newer]⟩
  · simp [newer, older]

end Client

end FirmwareCatalog
