/-
**How questions fail.**

A question to a catalog is a single request, or is put together from several.  A single request
fails in one of four ways, and the error says which.  The other questions pass on the error of the
request at which they stop, some of them inside one layer of context, or say that what they look for
is not there; that they say only when the replies that could have held it have been read.  So an
error tells where the question stopped, and its shape is known from the question alone.

Main definitions:

* `Question`, `Client.ask` — all questions, and what a client does to answer them;
* `Client.Lacks` — the ways in which a single request fails;
* `Client.Fails` — the ways in which questions fail, with the session that they leave;
* `ApiError.IsDirect`, `Question.MayFailWith` — the shapes of errors.

Main results:

* `Client.get_error_eq_iff` — a single request fails exactly in these four ways;
* `Client.Fails.mayFailWith` — the error of a question has one of the shapes for that question;
* `Client.ask_fails_iff` — **questions fail exactly in the ways told**, and only with these shapes.
-/
import FirmwareCatalog.Proofs.Api.BuildScan

set_option relaxedAutoImplicit false
set_option autoImplicit false

namespace FirmwareCatalog

variable {σ α : Type}

/-! ### Questions -/

/-- What a catalog can be asked by a client. -/
inductive Question where
  | allDevices
  | device (identifier : String)
  | history (identifier : String)
  | firmwares (version : String)
  | firmware (identifier build : String)
  | releases
  | buildOfVersion (version identifier : String)
  | versionOfBuild (build : String)
  | sharedFirmwares (version : Option String)
  | successorFirmware (version : String)
  deriving DecidableEq, Repr

/-- What the answer to a question holds. -/
def Question.Answer : Question → Type
  | allDevices => List Device
  | device _ => Device
  | history _ => List Firmware
  | firmwares _ => List Firmware
  | firmware _ _ => Firmware
  | releases => List Release
  | buildOfVersion _ _ => String
  | versionOfBuild _ => String
  | sharedFirmwares _ => List Firmware
  | successorFirmware _ => Firmware

namespace Client

/-- What a client does to answer a question. -/
def ask (c : Client) : (q : Question) → Call σ q.Answer
  | .allDevices => c.allDevices
  | .device identifier => c.device identifier
  | .history identifier => c.history identifier
  | .firmwares version => c.firmwares version
  | .firmware identifier build => c.firmware identifier build
  | .releases => c.releases
  | .buildOfVersion version identifier => c.buildOfVersion version identifier
  | .versionOfBuild build => c.versionOfBuild build
  | .sharedFirmwares version => c.sharedFirmwares version
  | .successorFirmware version => c.successorFirmware version

/-! ### Single requests -/

/-- The ways in which a single request fails: it cannot be sent, nothing usable comes back, or an
answer with another status than 200, or one that cannot be decoded.  In all but the first of them
the session has had the exchange. -/
inductive Lacks (c : Client) (decoder : Json.Decoder α) (e : Endpoint) (s : Session σ) :
    ApiError → Session σ → Prop
  | unsendable (h : (c.request e).isSendable = false) :
      Lacks c decoder e s (.transport .unsendable (c.request e).url.render) s
  | lost {fault : ExchangeFault} {s' : Session σ} (h : (c.request e).isSendable = true)
      (reply : s.exchange (c.request e) = (.failure fault, s')) :
      Lacks c decoder e s (.transport fault (c.request e).url.render) s'
  | refused {status : Status} {body : List UInt8} {s' : Session σ}
      (h : (c.request e).isSendable = true)
      (reply : s.exchange (c.request e) = (.answer status body, s'))
      (other : status ≠ .success) : Lacks c decoder e s (.status status.code status.render) s'
  | unread {body : List UInt8} {reason : Json.Error} {s' : Session σ}
      (h : (c.request e).isSendable = true)
      (reply : s.exchange (c.request e) = (.answer .success body, s'))
      (fault : Json.decode decoder (String.ofList (Utf8.decodeLossy body)) = .error reason) :
      Lacks c decoder e s (undecodable reason (Utf8.decodeLossy body)) s'

theorem Lacks.get_eq {c : Client} {decoder : Json.Decoder α} {e : Endpoint} {s s' : Session σ}
    {error : ApiError} (h : c.Lacks decoder e s error s') :
    (c.get decoder e).run s = (.error error, s') := by
  cases h with
  | unsendable h => exact get_run_unsendable h decoder s
  | lost h reply => simp [get_run h, reply, interpret]
  | refused h reply other => simp [get_run h, reply, interpret, understand, other]
  | unread h reply fault => simp [get_run h, reply, interpret, understand, fault]

/-- **A single request fails exactly in these four ways.** -/
theorem get_error_eq_iff {c : Client} {decoder : Json.Decoder α} {e : Endpoint} {s s' : Session σ}
    {error : ApiError} :
    (c.get decoder e).run s = (.error error, s') ↔ c.Lacks decoder e s error s' := by
  constructor
  · intro hrun
    cases hsend : (c.request e).isSendable with
    | false =>
        rw [get_run_unsendable hsend] at hrun
        cases hrun
        exact .unsendable hsend
    | true =>
        -- the request fails on the way, or by its status, or by its body
        rcases hreply : s.exchange (c.request e) with ⟨reply, s₁⟩
        rw [get_run hsend, hreply] at hrun
        obtain ⟨hresult, rfl⟩ := Prod.mk.inj hrun
        cases reply with
        | failure fault =>
            cases hresult
            exact .lost hsend hreply
        | answer status body =>
            by_cases hstatus : status = .success
            · subst hstatus
              cases hdecode : Json.decode decoder (String.ofList (Utf8.decodeLossy body)) with
              | ok a => simp [interpret, understand, hdecode] at hresult
              | error reason =>
                  simp only [interpret, understand, hdecode, ne_eq, not_true_eq_false,
                    if_false] at hresult
                  cases hresult
                  exact .unread hsend hreply hdecode
            · simp only [interpret, understand, ne_eq, hstatus, not_false_eq_true,
                if_true] at hresult
              cases hresult
              exact .refused hsend hreply hstatus
  · exact Lacks.get_eq

/-! ### All questions -/

def successorNotFound (version : String) : ApiError :=
  .notFound ("no SE3 IPSW found for SE2 version " ++ version)

def deviceNotFound (version identifier : String) : ApiError :=
  .notFound ("no build found for version " ++ version ++ " and device " ++ identifier)

/-- The ways in which questions fail.  A question that needs several requests stops at the first one
that fails, except that the search for a build passes over the devices that do not answer. -/
inductive Fails (c : Client) : Question → Session σ → ApiError → Session σ → Prop
  | allDevices {s s' : Session σ} {e : ApiError}
      (h : c.Lacks (Json.list Device.decoder) .devices s e s') : Fails c .allDevices s e s'
  | device {s s' : Session σ} {e : ApiError} {identifier : String}
      (h : c.Lacks Device.decoder (.device identifier) s e s') : Fails c (.device identifier) s e s'
  | history {s s' : Session σ} {e : ApiError} {identifier : String}
      (h : Fails c (.device identifier) s e s') : Fails c (.history identifier) s e s'
  | firmwares {s s' : Session σ} {e : ApiError} {version : String}
      (h : c.Lacks (Json.list Firmware.decoder) (.firmwares version) s e s') :
      Fails c (.firmwares version) s e s'
  | firmware {s s' : Session σ} {e : ApiError} {identifier build : String}
      (h : c.Lacks Firmware.decoder (.firmware identifier build) s e s') :
      Fails c (.firmware identifier build) s e s'
  | releases {s s' : Session σ} {e : ApiError}
      (h : c.Lacks (Json.list Release.decoder) .releases s e s') : Fails c .releases s e s'
  | buildOfVersion {s s' : Session σ} {e : ApiError} {version identifier : String}
      (h : Fails c (.firmwares version) s e s') : Fails c (.buildOfVersion version identifier) s e s'
  /-- The firmwares of the version have been read, and none of them is for the device. -/
  | noBuild {s s' : Session σ} {version identifier : String} {fws : List Firmware}
      (read : (c.firmwares version).run s = (.ok fws, s'))
      (none : ∀ fw ∈ fws, fw.identifier ≠ identifier) :
      Fails c (.buildOfVersion version identifier) s (deviceNotFound version identifier) s'
  | versionOfBuild {s s' : Session σ} {e : ApiError} {build : String}
      (h : Fails c .allDevices s e s') :
      Fails c (.versionOfBuild build) s
        (.context "failed to get all devices from ipsw.me API" e) s'
  /-- The catalog has been read, and all its devices have been asked; none of those that answered
  has the build. -/
  | noVersion {s s₁ s' : Session σ} {build : String} {ds : List Device} {steps : List ScanStep}
      (read : c.allDevices.run s = (.ok ds, s₁)) (asked : c.Asks build ds.reverse s₁ steps s')
      (none : ∀ step ∈ steps, step.version? = none) :
      Fails c (.versionOfBuild build) s (buildNotFound build) s'
  | sharedSecond {s s' : Session σ} {e : ApiError} {version : Option String}
      (h : Fails c (.history Pairing.secondIdentifier) s e s') :
      Fails c (.sharedFirmwares version) s (.context "failed to get SE2 IPSWs" e) s'
  | sharedThird {s s₁ s' : Session σ} {e : ApiError} {version : Option String}
      {second : List Firmware} (read : (c.history Pairing.secondIdentifier).run s = (.ok second, s₁))
      (h : Fails c (.history Pairing.thirdIdentifier) s₁ e s') :
      Fails c (.sharedFirmwares version) s (.context "failed to get SE3 IPSWs" e) s'
  | successor {s s' : Session σ} {e : ApiError} {version : String}
      (h : Fails c (.history Pairing.thirdIdentifier) s e s') :
      Fails c (.successorFirmware version) s (.context "failed to get SE3 IPSWs" e) s'
  /-- The history of the third generation has been read, and the version is not in it. -/
  | noSuccessor {s s' : Session σ} {version : String} {third : List Firmware}
      (read : (c.history Pairing.thirdIdentifier).run s = (.ok third, s'))
      (none : ∀ fw ∈ third, fw.version ≠ version) :
      Fails c (.successorFirmware version) s (successorNotFound version) s'

/-! ### One kind of question after the other -/

theorem history_error_iff {c : Client} {identifier : String} {s s' : Session σ} {e : ApiError} :
    (c.history identifier).run s = (.error e, s') ↔ (c.device identifier).run s = (.error e, s') := by
  rw [history, Call.run_bind_error_iff]
  constructor
  · rintro (h | ⟨d, s₁, -, h⟩)
    · exact h
    · exact absurd h (Call.run_pure_ne_error _ _ _ _)
  · exact Or.inl

/-- The build of a version is missing as the firmwares of that version are, or none of these is for
the device. -/
theorem buildOfVersion_error_iff {c : Client} {version identifier : String} {s s' : Session σ}
    {e : ApiError} :
    (c.buildOfVersion version identifier).run s = (.error e, s') ↔
      (c.firmwares version).run s = (.error e, s') ∨
        ∃ fws, (c.firmwares version).run s = (.ok fws, s') ∧
          (∀ fw ∈ fws, fw.identifier ≠ identifier) ∧ e = deviceNotFound version identifier := by
  rw [buildOfVersion, Call.run_bind_error_iff]
  constructor
  · rintro (h | ⟨fws, s₁, hread, h⟩)
    · exact Or.inl h
    · rcases Call.run_bind_error_iff.1 h with h | ⟨fw, s₂, -, h⟩
      · obtain ⟨hnone, he, rfl⟩ := Call.run_first_error_iff.1 h
        exact Or.inr ⟨fws, hread, fun fw hfw => beq_eq_false_iff_ne.1 (hnone fw hfw), he⟩
      · exact absurd h (Call.run_pure_ne_error _ _ _ _)
  · rintro (h | ⟨fws, hread, hnone, he⟩)
    · exact Or.inl h
    · refine Or.inr ⟨fws, s', hread, Call.run_bind_error_iff.2 (Or.inl ?_)⟩
      exact Call.run_first_error_iff.2 ⟨fun fw hfw => beq_eq_false_iff_ne.2 (hnone fw hfw), he, rfl⟩

/-- The shared firmwares are missing as one of the two histories is, in its context. -/
theorem sharedFirmwares_error_iff {c : Client} {version : Option String} {s s' : Session σ}
    {e : ApiError} :
    (c.sharedFirmwares version).run s = (.error e, s') ↔
      (∃ inner, e = .context "failed to get SE2 IPSWs" inner ∧
        (c.history Pairing.secondIdentifier).run s = (.error inner, s')) ∨
      ∃ second s₁ inner, (c.history Pairing.secondIdentifier).run s = (.ok second, s₁) ∧
        e = .context "failed to get SE3 IPSWs" inner ∧
        (c.history Pairing.thirdIdentifier).run s₁ = (.error inner, s') := by
  rw [sharedFirmwares, Call.run_bind_error_iff, secondHistory, Call.run_inStep_error_iff]
  constructor
  · rintro (h | ⟨second, s₁, hsecond, h⟩)
    · exact Or.inl h
    · rcases Call.run_bind_error_iff.1 h with h | ⟨third, s₂, -, h⟩
      · obtain ⟨inner, he, hthird⟩ := Call.run_inStep_error_iff.1 h
        exact Or.inr ⟨second, s₁, inner, Call.run_inStep_ok_iff.1 hsecond, he, hthird⟩
      · exact absurd h (Call.run_pure_ne_error _ _ _ _)
  · rintro (h | ⟨second, s₁, inner, hsecond, he, hthird⟩)
    · exact Or.inl h
    · refine Or.inr ⟨second, s₁, Call.run_inStep_ok_iff.2 hsecond, ?_⟩
      exact Call.run_bind_error_iff.2 (Or.inl (Call.run_inStep_error_iff.2 ⟨inner, he, hthird⟩))

/-- The firmware of the third generation is missing as its history is, in its context, or the
history does not have the version. -/
theorem successorFirmware_error_iff {c : Client} {version : String} {s s' : Session σ}
    {e : ApiError} :
    (c.successorFirmware version).run s = (.error e, s') ↔
      (∃ inner, e = .context "failed to get SE3 IPSWs" inner ∧
        (c.history Pairing.thirdIdentifier).run s = (.error inner, s')) ∨
      ∃ third, (c.history Pairing.thirdIdentifier).run s = (.ok third, s') ∧
        (∀ fw ∈ third, fw.version ≠ version) ∧ e = successorNotFound version := by
  rw [successorFirmware, Call.run_bind_error_iff, thirdHistory, Call.run_inStep_error_iff]
  constructor
  · rintro (h | ⟨third, s₁, hthird, h⟩)
    · exact Or.inl h
    · obtain ⟨hnone, he, rfl⟩ := Call.run_first_error_iff.1 h
      exact Or.inr ⟨third, Call.run_inStep_ok_iff.1 hthird,
        fun fw hfw => beq_eq_false_iff_ne.1 (hnone fw hfw), he⟩
  · rintro (h | ⟨third, hthird, hnone, he⟩)
    · exact Or.inl h
    · refine Or.inr ⟨third, s', Call.run_inStep_ok_iff.2 hthird, ?_⟩
      exact Call.run_first_error_iff.2 ⟨fun fw hfw => beq_eq_false_iff_ne.2 (hnone fw hfw), he, rfl⟩

/-- Devices of which none has said a version are searched in vain. -/
theorem Asks.scanDevices_eq_none {c : Client} {build : String} {ds : List Device}
    {s s' : Session σ} {steps : List ScanStep} (h : c.Asks build ds s steps s')
    (hnone : ∀ step ∈ steps, step.version? = none) : c.scanDevices build ds s = (none, s') := by
  induction h with
  | nil s => rfl
  | @cons d ds s s₁ s₂ step steps head tail ih =>
      have hrest := ih fun x hx => hnone x (List.mem_cons_of_mem _ hx)
      have hhead := head.scanDevice_eq
      cases step with
      | found version => cases hnone (.found version) List.mem_cons_self
      | missing => simp only [scanDevices, hhead, hrest]
      | skipped e => simp only [scanDevices, hhead, hrest]

/-- The version of a build is missing as the catalog is, in its context, or none of the devices that
answer has the build. -/
theorem versionOfBuild_error_iff {c : Client} {build : String} {s s' : Session σ} {e : ApiError} :
    (c.versionOfBuild build).run s = (.error e, s') ↔
      (∃ inner, e = .context "failed to get all devices from ipsw.me API" inner ∧
        c.allDevices.run s = (.error inner, s')) ∨
      ∃ ds s₁ steps, c.allDevices.run s = (.ok ds, s₁) ∧ c.Asks build ds.reverse s₁ steps s' ∧
        (∀ step ∈ steps, step.version? = none) ∧ e = buildNotFound build := by
  constructor
  · intro h
    rcases hcatalog : c.allDevices.run s with ⟨result, s₁⟩
    cases result with
    | error inner =>
        rw [versionOfBuild_of_error build hcatalog] at h
        cases h
        exact Or.inl ⟨inner, rfl, rfl⟩
    | ok ds =>
        obtain ⟨asked, left, steps, s₂, hsplit, hasks, hend⟩ :=
          scanDevices_asks c build ds.reverse s₁
        rcases hend with ⟨version, before, -, -, hscan⟩ | ⟨rfl, hnone, hscan⟩
        · rw [versionOfBuild_of_ok hcatalog hscan] at h
          cases h
        · rw [versionOfBuild_of_ok hcatalog hscan] at h
          cases h
          rw [List.append_nil] at hsplit
          rw [← hsplit] at hasks
          exact Or.inr ⟨ds, s₁, steps, rfl, hasks, hnone, rfl⟩
  · rintro (⟨inner, rfl, hcatalog⟩ | ⟨ds, s₁, steps, hcatalog, hasks, hnone, rfl⟩)
    · exact versionOfBuild_of_error build hcatalog
    · exact versionOfBuild_of_ok hcatalog (hasks.scanDevices_eq_none hnone)

/-! ### The shapes of errors -/

end Client

/-- The error of a single request, without a context around it. -/
inductive ApiError.IsDirect : ApiError → Prop
  | transport (fault : ExchangeFault) (url : String) : IsDirect (.transport fault url)
  | status (code : Nat) (text : String) : IsDirect (.status code text)
  | undecodable (reason body : String) : IsDirect (.undecodable reason body)

/-- The shapes that the error of a question can have. -/
def Question.MayFailWith : Question → ApiError → Prop
  | allDevices, e | device _, e | history _, e | firmwares _, e | firmware _ _, e | releases, e =>
    e.IsDirect
  | buildOfVersion _ _, e => e.IsDirect ∨ ∃ text, e = .notFound text
  | versionOfBuild _, e =>
    (∃ inner : ApiError,
      inner.IsDirect ∧ e = .context "failed to get all devices from ipsw.me API" inner) ∨
      ∃ text, e = .notFound text
  | sharedFirmwares _, e =>
    ∃ inner : ApiError, inner.IsDirect ∧
      (e = .context "failed to get SE2 IPSWs" inner ∨ e = .context "failed to get SE3 IPSWs" inner)
  | successorFirmware _, e =>
    (∃ inner : ApiError, inner.IsDirect ∧ e = .context "failed to get SE3 IPSWs" inner) ∨
      ∃ text, e = .notFound text

namespace Client

theorem Lacks.isDirect {c : Client} {decoder : Json.Decoder α} {e : Endpoint} {s s' : Session σ}
    {error : ApiError} (h : c.Lacks decoder e s error s') : error.IsDirect := by
  cases h with
  | unsendable h => exact .transport _ _
  | lost h reply => exact .transport _ _
  | refused h reply other => exact .status _ _
  | unread h reply fault => exact .undecodable _ _

/-- The error of a question has one of the shapes for that question. -/
theorem Fails.mayFailWith {c : Client} {q : Question} {s s' : Session σ} {e : ApiError}
    (h : c.Fails q s e s') : q.MayFailWith e := by
  induction h with
  | allDevices h => exact h.isDirect
  | device h => exact h.isDirect
  | history _ ih => exact ih
  | firmwares h => exact h.isDirect
  | firmware h => exact h.isDirect
  | releases h => exact h.isDirect
  | buildOfVersion _ ih => exact Or.inl ih
  | noBuild _ _ => exact Or.inr ⟨_, rfl⟩
  | versionOfBuild _ ih => exact Or.inl ⟨_, ih, rfl⟩
  | noVersion _ _ _ => exact Or.inr ⟨_, rfl⟩
  | sharedSecond _ ih => exact ⟨_, ih, Or.inl rfl⟩
  | sharedThird _ _ ih => exact ⟨_, ih, Or.inr rfl⟩
  | successor _ ih => exact Or.inl ⟨_, ih, rfl⟩
  | noSuccessor _ _ => exact Or.inr ⟨_, rfl⟩

/-! ### Exactly these ways -/

/-- A question that fails in one of the ways told has that error. -/
theorem Fails.ask_eq {c : Client} {q : Question} {s s' : Session σ} {e : ApiError}
    (h : c.Fails q s e s') : (c.ask q).run s = (.error e, s') := by
  induction h with
  | allDevices h => exact h.get_eq
  | device h => exact h.get_eq
  | history _ ih => exact history_error_iff.2 ih
  | firmwares h => exact h.get_eq
  | firmware h => exact h.get_eq
  | releases h => exact h.get_eq
  | buildOfVersion _ ih => exact buildOfVersion_error_iff.2 (Or.inl ih)
  | noBuild read none => exact buildOfVersion_error_iff.2 (Or.inr ⟨_, read, none, rfl⟩)
  | versionOfBuild _ ih => exact versionOfBuild_error_iff.2 (Or.inl ⟨_, rfl, ih⟩)
  | noVersion read asked none =>
      exact versionOfBuild_error_iff.2 (Or.inr ⟨_, _, _, read, asked, none, rfl⟩)
  | sharedSecond _ ih => exact sharedFirmwares_error_iff.2 (Or.inl ⟨_, rfl, ih⟩)
  | sharedThird read _ ih => exact sharedFirmwares_error_iff.2 (Or.inr ⟨_, _, _, read, rfl, ih⟩)
  | successor _ ih => exact successorFirmware_error_iff.2 (Or.inl ⟨_, rfl, ih⟩)
  | noSuccessor read none => exact successorFirmware_error_iff.2 (Or.inr ⟨_, read, none, rfl⟩)

theorem fails_history {c : Client} {identifier : String} {s s' : Session σ} {e : ApiError}
    (h : (c.history identifier).run s = (.error e, s')) : c.Fails (.history identifier) s e s' :=
  .history (.device (get_error_eq_iff.1 (history_error_iff.1 h)))

/-- A question fails in one of the ways told. -/
theorem fails_of_ask {c : Client} {q : Question} {s s' : Session σ} {e : ApiError}
    (h : (c.ask q).run s = (.error e, s')) : c.Fails q s e s' := by
  cases q with
  | allDevices => exact .allDevices (get_error_eq_iff.1 h)
  | device identifier => exact .device (get_error_eq_iff.1 h)
  | history identifier => exact fails_history h
  | firmwares version => exact .firmwares (get_error_eq_iff.1 h)
  | firmware identifier build => exact .firmware (get_error_eq_iff.1 h)
  | releases => exact .releases (get_error_eq_iff.1 h)
  | buildOfVersion version identifier =>
      rcases buildOfVersion_error_iff.1 h with h | ⟨fws, hread, hnone, rfl⟩
      · exact .buildOfVersion (.firmwares (get_error_eq_iff.1 h))
      · exact .noBuild hread hnone
  | versionOfBuild build =>
      rcases versionOfBuild_error_iff.1 h with
        ⟨inner, rfl, hinner⟩ | ⟨ds, s₁, steps, hread, hasks, hnone, rfl⟩
      · exact .versionOfBuild (.allDevices (get_error_eq_iff.1 hinner))
      · exact .noVersion hread hasks hnone
  | sharedFirmwares version =>
      rcases sharedFirmwares_error_iff.1 h with
        ⟨inner, rfl, hinner⟩ | ⟨second, s₁, inner, hread, rfl, hinner⟩
      · exact .sharedSecond (fails_history hinner)
      · exact .sharedThird hread (fails_history hinner)
  | successorFirmware version =>
      rcases successorFirmware_error_iff.1 h with ⟨inner, rfl, hinner⟩ | ⟨third, hread, hnone, rfl⟩
      · exact .successor (fails_history hinner)
      · exact .noSuccessor hread hnone

/-- **How questions fail.**  A question fails exactly in the ways told, and its error has one of the
shapes for that question: that of a single request without a context, that of such a request in the
one context that the question puts around it, or that what is looked for is not there.  The error in
a context is the one of the question that was asked for the sake of the other one.  A device of the
search for a build is passed over with the error of its own request. -/
theorem ask_fails_iff (c : Client) :
    (∀ (q : Question) (s s' : Session σ) (e : ApiError),
      (c.ask q).run s = (.error e, s') ↔ c.Fails q s e s' ∧ q.MayFailWith e) ∧
    ∀ (identifier build : String) (s s' : Session σ) (e : ApiError),
      c.scanDevice identifier build s = (.skipped e, s') ↔
        c.Fails (.device identifier) s e s' ∧ e.IsDirect := by
  constructor
  · intro q s s' e
    constructor
    · intro h
      exact ⟨fails_of_ask h, (fails_of_ask h).mayFailWith⟩
    · rintro ⟨h, -⟩
      exact h.ask_eq
  · intro identifier build s s' e
    rw [scanDevice_eq_iff]
    constructor
    · intro h
      cases h with
      | skipped asked =>
          have hfails : c.Fails (.device identifier) s e s' := fails_of_ask asked
          exact ⟨hfails, hfails.mayFailWith⟩
    · rintro ⟨h, -⟩
      exact .skipped h.ask_eq

end Client

end FirmwareCatalog
