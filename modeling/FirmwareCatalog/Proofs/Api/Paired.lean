/-
**The paired models.**

The firmwares that the second and the third generation share are picked from the history of the third
one: all entries, in their order, whose version stands somewhere in the history of the second one.  Of
that history nothing but the set of its versions matters.  A single version can be asked for in three
ways — the entries of it among the shared firmwares, the firmware for it, and the first entry of it in
the record of the device — and these have to pick the same entries.

The questions are asked one after another, so that they can be compared only with a server that gives
the same replies again: sessions that are alike, or a steady one.

Main definitions:

* `Picked` — the items of a list that have a property, in their order;
* `Client.HasHistories` — both histories can be read, one after the other.

Main results:

* `picked_iff` — picking is what a filter does;
* `Client.mem_versions` — the versions of some firmwares, `Client.picked_shared` — **what is shared**;
* `Client.sharedFirmwares_run` — **the question for shared firmwares**, its requests and its results;
* `Client.shared_version` — one version of what is shared, `Client.successorFirmware_ok_iff` — the
  firmware for a version;
* `Client.successor_agrees` — **the three ways to ask for a version agree**.
-/
import FirmwareCatalog.Proofs.Api.Replies
import Mathlib.Data.List.Basic

set_option relaxedAutoImplicit false
set_option autoImplicit false

namespace FirmwareCatalog

variable {σ τ α : Type}

/-! ### Picking -/

/-- The second list has the items of the first one that have a property, in their order. -/
inductive Picked (p : α → Prop) : List α → List α → Prop
  | nil : Picked p [] []
  | keep {a : α} {as bs : List α} (h : p a) (tail : Picked p as bs) : Picked p (a :: as) (a :: bs)
  | drop {a : α} {as bs : List α} (h : ¬ p a) (tail : Picked p as bs) : Picked p (a :: as) bs

/-- **Picking is what a filter does**, if it tests the property. -/
theorem picked_iff {p : α → Prop} {test : α → Bool} (htest : ∀ a, test a = true ↔ p a)
    {as bs : List α} : Picked p as bs ↔ bs = as.filter test := by
  constructor
  · intro h
    induction h with
    | nil => rfl
    | keep h _ ih => rw [List.filter_cons_of_pos ((htest _).2 h), ih]
    | drop h _ ih => rw [List.filter_cons_of_neg (mt (htest _).1 h), ih]
  · rintro rfl
    induction as with
    | nil => exact .nil
    | cons a as ih =>
        by_cases h : test a = true
        · rw [List.filter_cons_of_pos h]
          exact .keep ((htest a).1 h) ih
        · rw [List.filter_cons_of_neg h]
          exact .drop (mt (htest a).2 h) ih

namespace Client

/-! ### What is shared -/

/-- **The versions of some firmwares** are those that one of them has. -/
theorem mem_versions {fws : List Firmware} {v : String} :
    v ∈ versions fws ↔ ∃ fw ∈ fws, fw.version = v := by
  have hfold (vs : List String) :
      v ∈ fws.foldl (fun vs fw => vs.insert fw.version) vs ↔
        v ∈ vs ∨ v ∈ fws.map Firmware.version := by
    induction fws generalizing vs with
    | nil => simp
    | cons fw fws ih =>
        rw [List.foldl_cons, ih, List.mem_insert_iff, List.map_cons, List.mem_cons, or_assoc,
          or_left_comm]
  rw [versions, hfold, List.mem_map, or_iff_right List.not_mem_nil]

theorem shared_eq_filter (second third : List Firmware) (version : Option String) :
    shared second third version = third.filter fun fw =>
      version.all (fw.version == ·) && (versions second).contains fw.version := List.filter_filter

/-- A firmware is shared if the second generation has its version, and it is the one asked for. -/
def IsShared (second : List Firmware) (version : Option String) (fw : Firmware) : Prop :=
  (∃ other ∈ second, other.version = fw.version) ∧ ∀ v, version = some v → fw.version = v

/-- **The firmwares shared are picked from those of the third generation.** -/
theorem picked_shared (second third : List Firmware) (version : Option String) :
    Picked (IsShared second version) third (shared second third version) := by
  refine (picked_iff fun fw => ?_).2 (shared_eq_filter second third version)
  rw [Bool.and_eq_true, List.contains_iff_mem, mem_versions, and_comm, IsShared]
  refine and_congr_right fun _ => ?_
  cases version with
  | none => simp
  | some v => simp

theorem shared_some (second third : List Firmware) (v : String) :
    shared second third (some v) = (shared second third none).filter fun fw => fw.version == v := by
  rw [shared_eq_filter, shared_eq_filter, List.filter_filter]
  refine List.filter_congr fun fw _ => ?_
  simp

theorem shared_congr {second second' : List Firmware}
    (h : ∀ v, (∃ fw ∈ second, fw.version = v) ↔ ∃ fw ∈ second', fw.version = v)
    (third : List Firmware) (version : Option String) :
    shared second third version = shared second' third version := by
  rw [shared_eq_filter, shared_eq_filter]
  refine List.filter_congr fun fw _ => ?_
  congr 1
  rw [Bool.eq_iff_iff, List.contains_iff_mem, List.contains_iff_mem, mem_versions, mem_versions]
  exact h fw.version

/-! ### The question for what is shared -/

theorem sharedFirmwares_of_second_error {c : Client} {s s₁ : Session σ} {e : ApiError}
    (version : Option String)
    (h : (c.history Pairing.secondIdentifier).run s = (.error e, s₁)) :
    (c.sharedFirmwares version).run s = (.error (.context "failed to get SE2 IPSWs" e), s₁) :=
  Call.run_bind_error (Call.run_inStep_error h)

theorem sharedFirmwares_of_third_error {c : Client} {s s₁ s₂ : Session σ} {second : List Firmware}
    {e : ApiError} (version : Option String)
    (h : (c.history Pairing.secondIdentifier).run s = (.ok second, s₁))
    (h' : (c.history Pairing.thirdIdentifier).run s₁ = (.error e, s₂)) :
    (c.sharedFirmwares version).run s = (.error (.context "failed to get SE3 IPSWs" e), s₂) := by
  rw [sharedFirmwares, secondHistory, Call.run_bind_ok (Call.run_inStep_ok h)]
  exact Call.run_bind_error (Call.run_inStep_error h')

/-- Both histories can be read, one after the other. -/
def HasHistories (c : Client) (s : Session σ) (second third : List Firmware) (s' : Session σ) :
    Prop :=
  ∃ s₁, (c.history Pairing.secondIdentifier).run s = (.ok second, s₁) ∧
    (c.history Pairing.thirdIdentifier).run s₁ = (.ok third, s')

theorem HasHistories.sharedFirmwares_eq {c : Client} {s s' : Session σ}
    {second third : List Firmware} (h : c.HasHistories s second third s') (version : Option String) :
    (c.sharedFirmwares version).run s = (.ok (shared second third version), s') := by
  obtain ⟨s₁, hsecond, hthird⟩ := h
  rw [sharedFirmwares, secondHistory, Call.run_bind_ok (Call.run_inStep_ok hsecond), thirdHistory,
    Call.run_bind_ok (Call.run_inStep_ok hthird)]
  rfl

theorem history_log {c : Client} {s s' : Session σ} {identifier : String}
    {result : Except ApiError (List Firmware)} (h : (c.history identifier).run s = (result, s')) :
    s'.log = s.log ++ c.requests [.device identifier] := by
  have hafter := c.history_after identifier s
  rw [h] at hafter
  exact (congrArg Session.log hafter).trans (Session.log_after _ _)

theorem history_history_log {c : Client} {s s₁ s₂ : Session σ} {a b : String}
    {first second : Except ApiError (List Firmware)} (h : (c.history a).run s = (first, s₁))
    (h' : (c.history b).run s₁ = (second, s₂)) :
    s₂.log = s.log ++ c.requests [.device a, .device b] := by
  rw [history_log h', history_log h, List.append_assoc, ← requests_append]
  rfl

/-- To ask for one version is to ask for all that is shared and to pick that version. -/
theorem sharedFirmwares_some (c : Client) (v : String) (s : Session σ) :
    ((c.sharedFirmwares (some v)).run s).1 =
      ((c.sharedFirmwares none).run s).1.map (List.filter fun fw => fw.version == v) := by
  rcases hsecond : (c.history Pairing.secondIdentifier).run s with ⟨result, s₁⟩
  cases result with
  | error e =>
      rw [sharedFirmwares_of_second_error _ hsecond, sharedFirmwares_of_second_error _ hsecond]
      rfl
  | ok second =>
      rcases hthird : (c.history Pairing.thirdIdentifier).run s₁ with ⟨result, s₂⟩
      cases result with
      | error e =>
          rw [sharedFirmwares_of_third_error _ hsecond hthird,
            sharedFirmwares_of_third_error _ hsecond hthird]
          rfl
      | ok third =>
          have h : c.HasHistories s second third s₂ := ⟨s₁, hsecond, hthird⟩
          rw [h.sharedFirmwares_eq, h.sharedFirmwares_eq, shared_some]
          rfl

/-- **The question for shared firmwares.**  The record of the second generation is asked for, and
after it that of the third one, unless the first is missing.  If both can be read, the result is what
is picked from the third history: the entries whose version stands in the second one, and is the one
asked for, if any.  From a server that gives the same replies, a single version is what it is among
all that is shared; and of the second history only the versions matter, neither their order nor how
often they stand there. -/
theorem sharedFirmwares_run (c : Client) :
    (∀ (version : Option String) (s : Session σ),
      (∀ e s₁, (c.history Pairing.secondIdentifier).run s = (.error e, s₁) →
        (c.sharedFirmwares version).run s =
            (.error (.context "failed to get SE2 IPSWs" e), s₁) ∧
          s₁.log = s.log ++ c.requests [.device Pairing.secondIdentifier]) ∧
      ∀ second s₁, (c.history Pairing.secondIdentifier).run s = (.ok second, s₁) →
        (∀ e s₂, (c.history Pairing.thirdIdentifier).run s₁ = (.error e, s₂) →
          (c.sharedFirmwares version).run s =
              (.error (.context "failed to get SE3 IPSWs" e), s₂) ∧
            s₂.log = s.log ++ c.requests
              [.device Pairing.secondIdentifier, .device Pairing.thirdIdentifier]) ∧
        ∀ third s₂, (c.history Pairing.thirdIdentifier).run s₁ = (.ok third, s₂) →
          (∃ fws, (c.sharedFirmwares version).run s = (.ok fws, s₂) ∧
            Picked (IsShared second version) third fws) ∧
          s₂.log = s.log ++ c.requests
            [.device Pairing.secondIdentifier, .device Pairing.thirdIdentifier]) ∧
    (∀ (v : String) (s : Session σ) (t : Session τ), s.Alike t →
      ((c.sharedFirmwares (some v)).run t).1 =
        ((c.sharedFirmwares none).run s).1.map (List.filter fun fw => fw.version == v)) ∧
    ∀ (version : Option String) (s s' : Session σ) (t t' : Session τ)
      (second second' third : List Firmware),
      c.HasHistories s second third s' → c.HasHistories t second' third t' →
      (∀ v, (∃ fw ∈ second, fw.version = v) ↔ ∃ fw ∈ second', fw.version = v) →
        ((c.sharedFirmwares version).run s).1 = ((c.sharedFirmwares version).run t).1 := by
  refine ⟨fun version s => ⟨?_, ?_⟩, ?_, ?_⟩
  · intro e s₁ hsecond
    exact ⟨sharedFirmwares_of_second_error version hsecond, history_log hsecond⟩
  · intro second s₁ hsecond
    refine ⟨fun e s₂ hthird => ?_, fun third s₂ hthird => ?_⟩
    · exact ⟨sharedFirmwares_of_third_error version hsecond hthird,
        history_history_log hsecond hthird⟩
    · have h : c.HasHistories s second third s₂ := ⟨s₁, hsecond, hthird⟩
      exact ⟨⟨_, h.sharedFirmwares_eq version, picked_shared second third version⟩,
        history_history_log hsecond hthird⟩
  · intro v s t hst
    have hsome : ((c.sharedFirmwares (some v)).run s).1 = ((c.sharedFirmwares (some v)).run t).1 :=
      hst.ask_eq c (.sharedFirmwares (some v))
    rw [← hsome, sharedFirmwares_some]
  · intro version s s' t t' second second' third hs ht hversions
    rw [hs.sharedFirmwares_eq, ht.sharedFirmwares_eq, shared_congr hversions]

/-! ### One version -/

theorem shared_of_mem {second : List Firmware} {v : String} (h : ∃ fw ∈ second, fw.version = v)
    (third : List Firmware) :
    shared second third (some v) = third.filter fun fw => fw.version == v := by
  rw [shared_eq_filter]
  refine List.filter_congr fun fw _ => ?_
  rw [Option.all_some]
  by_cases hv : fw.version = v
  · rw [hv, List.contains_iff_mem.2 (mem_versions.2 h), Bool.and_true]
  · rw [beq_eq_false_iff_ne.2 hv, Bool.false_and]

theorem shared_of_not_mem {second : List Firmware} {v : String}
    (h : ¬ ∃ fw ∈ second, fw.version = v) (third : List Firmware) :
    shared second third (some v) = [] := by
  rw [shared_eq_filter, List.filter_eq_nil_iff]
  intro fw _ htest
  obtain ⟨hversion, hknown⟩ := Bool.and_eq_true_iff.1 htest
  obtain ⟨other, hother, heq⟩ := mem_versions.1 (List.contains_iff_mem.1 hknown)
  exact h ⟨other, hother, heq.trans (beq_iff_eq.1 hversion)⟩

/-- Something of a version is shared exactly if both generations have it, and the first of it is the
first firmware of the third generation with the version. -/
theorem shared_version (second third : List Firmware) (v : String) :
    (shared second third (some v) ≠ [] ↔
      (∃ fw, third.find? (fun fw => fw.version == v) = some fw) ∧ ∃ fw ∈ second, fw.version = v) ∧
    (shared second third (some v) ≠ [] →
      (shared second third (some v)).head? = third.find? (fun fw => fw.version == v) ∧
        Picked (fun fw => fw.version = v) third (shared second third (some v))) := by
  by_cases h : ∃ fw ∈ second, fw.version = v
  · -- The test of the second generation holds for all firmwares with the version, or for none.
    rw [shared_of_mem h, List.head?_filter]
    refine ⟨?_, fun _ => ⟨rfl, (picked_iff fun fw => beq_iff_eq).2 rfl⟩⟩
    rw [and_iff_left h, ← Option.isSome_iff_exists, ← List.head?_filter, List.isSome_head?, ne_eq]
  · rw [shared_of_not_mem h]
    have hne : ¬ ([] : List Firmware) ≠ [] := fun hne => hne rfl
    exact ⟨iff_of_false hne fun hboth => h hboth.2, fun hempty => absurd hempty hne⟩

theorem history_of_device_ok {c : Client} {identifier : String} {s s' : Session σ} {d : Device}
    (h : (c.device identifier).run s = (.ok d, s')) :
    (c.history identifier).run s = (.ok d.firmwares, s') := by
  rw [history, Call.run_bind_ok h]
  rfl

/-- **The firmware for a version is the first one in the record of the third generation.** -/
theorem successorFirmware_ok_iff {c : Client} {v : String} {s s' : Session σ} {fw : Firmware} :
    (c.successorFirmware v).run s = (.ok fw, s') ↔
      ∃ d, (c.device Pairing.thirdIdentifier).run s = (.ok d, s') ∧
        d.firmwareByVersion? v = some fw := by
  rw [successorFirmware, Call.run_bind_ok_iff]
  constructor
  · rintro ⟨third, s₁, hthird, hfirst⟩
    obtain ⟨hfind, rfl⟩ := Call.run_first_ok_iff.1 hfirst
    obtain ⟨d, s₂, hd, hpure⟩ := Call.run_bind_ok_iff.1 (Call.run_inStep_ok_iff.1 hthird)
    cases hpure
    exact ⟨d, hd, hfind⟩
  · rintro ⟨d, hd, hfind⟩
    exact ⟨d.firmwares, s', Call.run_inStep_ok (history_of_device_ok hd),
      Call.run_first_ok_iff.2 ⟨hfind, rfl⟩⟩

theorem successorFirmware_result_iff {c : Client} {v : String} {s : Session σ} {fw : Firmware} :
    ((c.successorFirmware v).run s).1 = .ok fw ↔
      ∃ d, ((c.device Pairing.thirdIdentifier).run s).1 = .ok d ∧
        d.firmwareByVersion? v = some fw := by
  constructor
  · intro h
    obtain ⟨d, hd, hfind⟩ := successorFirmware_ok_iff.1 (Prod.ext h rfl)
    exact ⟨d, congrArg Prod.fst hd, hfind⟩
  · rintro ⟨d, hd, hfind⟩
    exact congrArg Prod.fst (successorFirmware_ok_iff.2 ⟨d, Prod.ext hd rfl, hfind⟩)

/-- A steady server gives both histories whenever it is asked. -/
theorem hasHistories_of_isSteady {c : Client} {s : Session σ} (hs : s.IsSteady)
    {second third : Device} (hsecond : ((c.device Pairing.secondIdentifier).run s).1 = .ok second)
    (hthird : ((c.device Pairing.thirdIdentifier).run s).1 = .ok third) (rs : List Request) :
    ∃ s', c.HasHistories (s.after rs) second.firmwares third.firmwares s' := by
  have hask {identifier : String} {d : Device} (h : ((c.device identifier).run s).1 = .ok d)
      (rs : List Request) : ((c.device identifier).run (s.after rs)).1 = .ok d :=
    (hs.ask_eq c (.device identifier) rs).trans h
  have hrun {identifier : String} {d : Device} {t : Session σ}
      (h : ((c.device identifier).run t).1 = .ok d) :
      (c.history identifier).run t = (.ok d.firmwares, ((c.device identifier).run t).2) :=
    history_of_device_ok (Prod.ext h rfl)
  -- The second question is put to the session that the first one leaves, which is one more request on.
  have hafter : ((c.device Pairing.secondIdentifier).run (s.after rs)).2 =
      s.after (rs ++ c.requests [.device Pairing.secondIdentifier]) := by
    rw [device, get_after, Session.after_append]
  refine ⟨((c.device Pairing.thirdIdentifier).run
    (s.after (rs ++ c.requests [.device Pairing.secondIdentifier]))).2, _, hrun (hask hsecond rs), ?_⟩
  rw [hafter]
  exact hrun (hask hthird _)

/-- **The three ways to ask for a version agree**, with a server that answers each address in one way:
whatever was asked before each of the questions, the firmware for a version is the first one with that
version in the record of the third generation; and if the records of both generations can be read,
something of the version is shared exactly if there is such a firmware and the second generation has
the version too.  In this case that firmware is the first one shared, and what is shared are all the
firmwares of the third generation with the version, in their order. -/
theorem successor_agrees (c : Client) {s : Session σ} (hs : s.IsSteady) (v : String)
    (rs₁ rs₂ rs₃ rs₄ : List Request) :
    (∀ fw, ((c.successorFirmware v).run (s.after rs₁)).1 = .ok fw ↔
      ∃ d, ((c.device Pairing.thirdIdentifier).run (s.after rs₂)).1 = .ok d ∧
        d.firmwareByVersion? v = some fw) ∧
    ∀ second third, ((c.device Pairing.secondIdentifier).run (s.after rs₃)).1 = .ok second →
      ((c.device Pairing.thirdIdentifier).run (s.after rs₂)).1 = .ok third →
        ∃ fws, ((c.sharedFirmwares (some v)).run (s.after rs₄)).1 = .ok fws ∧
          (fws ≠ [] ↔ (∃ fw, ((c.successorFirmware v).run (s.after rs₁)).1 = .ok fw) ∧
            ∃ fw ∈ second.firmwares, fw.version = v) ∧
          (fws ≠ [] →
            (∃ fw, ((c.successorFirmware v).run (s.after rs₁)).1 = .ok fw ∧ fws.head? = some fw) ∧
              Picked (fun fw => fw.version = v) third.firmwares fws) := by
  -- Whatever was asked before, all three questions have the results of the session at its start.
  have hask : ((c.successorFirmware v).run (s.after rs₁)).1 = ((c.successorFirmware v).run s).1 :=
    hs.ask_eq c (.successorFirmware v) rs₁
  have hdevice : ((c.device Pairing.thirdIdentifier).run (s.after rs₂)).1 =
      ((c.device Pairing.thirdIdentifier).run s).1 := hs.ask_eq c (.device Pairing.thirdIdentifier) rs₂
  rw [hask, hdevice]
  refine ⟨fun fw => successorFirmware_result_iff, fun second third hsecond hthird => ?_⟩
  have hfirst (fw : Firmware) : ((c.successorFirmware v).run s).1 = .ok fw ↔
      third.firmwareByVersion? v = some fw := by
    rw [successorFirmware_result_iff, hthird]
    constructor
    · rintro ⟨d, hd, hfind⟩
      cases hd
      exact hfind
    · intro hfind
      exact ⟨third, rfl, hfind⟩
  have hsecond' : ((c.device Pairing.secondIdentifier).run s).1 = .ok second :=
    (hs.ask_eq c (.device Pairing.secondIdentifier) rs₃).symm.trans hsecond
  obtain ⟨s', hboth⟩ := hasHistories_of_isSteady hs hsecond' hthird rs₄
  obtain ⟨hiff, hpicked⟩ := shared_version second.firmwares third.firmwares v
  refine ⟨_, congrArg Prod.fst (hboth.sharedFirmwares_eq (some v)), ?_, fun hne => ?_⟩
  · rw [hiff]
    exact and_congr_left' (exists_congr fun fw => (hfirst fw).symm)
  · obtain ⟨hhead, hall⟩ := hpicked hne
    obtain ⟨fw, hfind⟩ := (hiff.1 hne).1
    exact ⟨⟨fw, (hfirst fw).2 hfind, hhead.trans hfind⟩, hall⟩

def secondText : String :=
  "\x7b\"firmwares\":[\x7b\"version\":\"15.4\"\x7d,\x7b\"version\":\"15.4\"\x7d]\x7d"

def thirdText : String :=
  "\x7b\"firmwares\":[\x7b\"version\":\"15.5\"\x7d," ++
    "\x7b\"version\":\"15.4\",\"buildid\":\"19E241\"\x7d," ++
    "\x7b\"version\":\"15.4\",\"buildid\":\"19E258\"\x7d]\x7d"

/-- A server with one device of each generation, that has not been asked anything. -/
def pairedStart : Session Unit :=
  .start (.fixed fun r =>
    if r.url = (loopback []).url (.device Pairing.secondIdentifier) then
      .answer .success (Utf8.encode secondText.toList)
    else .answer .success (Utf8.encode thirdText.toList)) ()

theorem successor_agrees_builds :
    pairedStart.IsSteady ∧
    (((loopback []).successorFirmware "15.4").run pairedStart).1 =
      .ok { version := "15.4", build := "19E241" } ∧
    ∃ fws, (((loopback []).sharedFirmwares (some "15.4")).run pairedStart).1 = .ok fws ∧
      fws.head? = some { version := "15.4", build := "19E241" } := by
  let one : Firmware := { version := "15.4" }
  let first : Firmware := { version := "15.4", build := "19E241" }
  let next : Firmware := { version := "15.4", build := "19E258" }
  have hsteady : pairedStart.IsSteady := Session.isSteady_fixed _
  have hsecond : (loopback []).IsAnswered (.device Pairing.secondIdentifier) pairedStart secondText _ :=
    ⟨by decide, rfl⟩
  have hthird : (loopback []).IsAnswered (.device Pairing.thirdIdentifier) pairedStart thirdText _ :=
    ⟨by decide, rfl⟩
  have hread : DocumentKind.device.read secondText = .ok { firmwares := [one, one] } := by cbv
  have hread' : DocumentKind.device.read thirdText =
      .ok { firmwares := [{ version := "15.5" }, first, next] } := by cbv
  have hdevice := congrArg Prod.fst (hthird.get_ok hread')
  obtain ⟨hsuccessor, hshared⟩ := successor_agrees (loopback []) hsteady "15.4" [] [] [] []
  have hfirst : (((loopback []).successorFirmware "15.4").run pairedStart).1 = .ok first :=
    (hsuccessor first).2 ⟨_, hdevice, rfl⟩
  obtain ⟨fws, hfws, hiff, hhead⟩ := hshared _ _ (congrArg Prod.fst (hsecond.get_ok hread)) hdevice
  have hne : fws ≠ [] := hiff.2 ⟨⟨first, hfirst⟩, one, List.mem_cons_self, rfl⟩
  obtain ⟨⟨fw, hfw, hhead⟩, -⟩ := hhead hne
  cases hfirst.symm.trans hfw
  exact ⟨hsteady, hfirst, fws, hfws, hhead⟩

end Client

end FirmwareCatalog
