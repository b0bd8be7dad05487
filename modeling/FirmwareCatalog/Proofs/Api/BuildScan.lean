/-
**The search for a build.**

To find the version of a build, the devices of the catalog are asked for their histories, the last
one first.  What a device says depends on the session that the devices asked before it have left,
and a device that gives no answer is passed over, so an account of the search is an account of its
steps: which devices were asked, what each of them said, and where the search stopped.

Main definitions:

* `Client.Says` — what one device says about a build, and the session it leaves;
* `Client.Asks` — devices asked one after another, each in the session that the one before left;
* `ScanStep.version?` — the version, where a step has found one.

Main results:

* `Client.scanDevice_eq_iff` — one step of the search does what `Client.Says` tells;
* `Client.Asks.log` — the steps send the requests for their devices, in order;
* `Client.scanDevices_asks` — **the search stops right after the first step that finds a version**;
* `Client.versionOfBuild_run` — the whole search, its result and its requests;
* `Client.versionOfBuild_unsent` — a device of the catalog that no request is sent for.
-/
import FirmwareCatalog.Proofs.Api.Address
import FirmwareCatalog.Proofs.Api.Session
import FirmwareCatalog.Proofs.Catalog.RoundTrip

set_option relaxedAutoImplicit false
set_option autoImplicit false

namespace FirmwareCatalog

variable {σ : Type}

/-- The version, where a step has found one. -/
def ScanStep.version? : ScanStep → Option String
  | .found version => some version
  | .missing => none
  | .skipped _ => none

/-! ### The first firmware of a history with a build -/

theorem Device.firmwareByBuild?_eq_some_iff {d : Device} {build : String} {fw : Firmware} :
    d.firmwareByBuild? build = some fw ↔
      fw.build = build ∧ ∃ before after, d.firmwares = before ++ fw :: after ∧
        ∀ x ∈ before, x.build ≠ build := by
  simp [Device.firmwareByBuild?, List.find?_eq_some_iff_append]

theorem Device.firmwareByBuild?_eq_none_iff {d : Device} {build : String} :
    d.firmwareByBuild? build = none ↔ ∀ x ∈ d.firmwares, x.build ≠ build := by
  simp [Device.firmwareByBuild?]

namespace Client

/-! ### One device -/

/-- What one device says about a build in a session, and the session after it. -/
inductive Says (c : Client) (build identifier : String) (s : Session σ) :
    ScanStep → Session σ → Prop
  /-- The first firmware of its history with the build has the version. -/
  | found {d : Device} {fw : Firmware} {before after : List Firmware} {s' : Session σ}
      (asked : (c.device identifier).run s = (.ok d, s'))
      (history : d.firmwares = before ++ fw :: after)
      (first : ∀ x ∈ before, x.build ≠ build) (build_eq : fw.build = build) :
      Says c build identifier s (.found fw.version) s'
  /-- No firmware of its history has the build. -/
  | missing {d : Device} {s' : Session σ} (asked : (c.device identifier).run s = (.ok d, s'))
      (history : ∀ x ∈ d.firmwares, x.build ≠ build) : Says c build identifier s .missing s'
  /-- There is no record of the device. -/
  | skipped {e : ApiError} {s' : Session σ} (asked : (c.device identifier).run s = (.error e, s')) :
      Says c build identifier s (.skipped e) s'

/-- Every device says something. -/
theorem says_scanDevice (c : Client) (build identifier : String) (s : Session σ) :
    c.Says build identifier s (c.scanDevice identifier build s).1
      (c.scanDevice identifier build s).2 := by
  rcases hrun : (c.device identifier).run s with ⟨result, s'⟩
  cases result with
  | error e =>
      have heq : c.scanDevice identifier build s = (.skipped e, s') := by
        simp only [scanDevice, hrun]
      rw [heq]
      exact .skipped hrun
  | ok d =>
      cases hfind : d.firmwareByBuild? build with
      | none =>
          have heq : c.scanDevice identifier build s = (.missing, s') := by
            simp only [scanDevice, hrun, hfind]
          rw [heq]
          exact .missing hrun (Device.firmwareByBuild?_eq_none_iff.1 hfind)
      | some fw =>
          have heq : c.scanDevice identifier build s = (.found fw.version, s') := by
            simp only [scanDevice, hrun, hfind]
          obtain ⟨hbuild, before, after, hsplit, hfirst⟩ :=
            Device.firmwareByBuild?_eq_some_iff.1 hfind
          rw [heq]
          exact .found hrun hsplit hfirst hbuild

/-- A device says one thing only. -/
theorem Says.scanDevice_eq {c : Client} {build identifier : String} {s s' : Session σ}
    {step : ScanStep} (h : c.Says build identifier s step s') :
    c.scanDevice identifier build s = (step, s') := by
  cases h with
  | @found d fw before after s' asked history first build_eq =>
      have hfind : d.firmwareByBuild? build = some fw :=
        Device.firmwareByBuild?_eq_some_iff.2 ⟨build_eq, before, after, history, first⟩
      simp only [scanDevice, asked, hfind]
  | missing asked history =>
      simp only [scanDevice, asked, Device.firmwareByBuild?_eq_none_iff.2 history]
  | skipped asked => simp only [scanDevice, asked]

/-- **One step of the search**, told without it. -/
theorem scanDevice_eq_iff {c : Client} {build identifier : String} {s s' : Session σ}
    {step : ScanStep} :
    c.scanDevice identifier build s = (step, s') ↔ c.Says build identifier s step s' := by
  constructor
  · intro h
    have hsays := says_scanDevice c build identifier s
    rwa [h] at hsays
  · exact Says.scanDevice_eq

theorem Says.session_eq {c : Client} {build identifier : String} {s s' : Session σ}
    {step : ScanStep} (h : c.Says build identifier s step s') :
    s' = ((c.device identifier).run s).2 := by
  cases h with
  | found asked _ _ _ => rw [asked]
  | missing asked _ => rw [asked]
  | skipped asked => rw [asked]

/-- **A device is passed over exactly if it cannot be asked, or its reply holds no record.** -/
theorem says_skipped_iff {c : Client} {build identifier : String} {s : Session σ} :
    (∃ e s', c.Says build identifier s (.skipped e) s') ↔
      (c.request (.device identifier)).isSendable = false ∨
        (s.server.reply s.state (c.request (.device identifier))).1.GivesNo
          Device.decoder := by
  rw [← get_error_iff]
  constructor
  · rintro ⟨e, s', h⟩
    cases h with
    | skipped asked => exact ⟨e, s', asked⟩
  · rintro ⟨e, s', asked⟩
    exact ⟨e, s', .skipped asked⟩

/-! ### Devices one after another -/

/-- Devices asked one after another, each in the session that the one before left, and what they
said. -/
inductive Asks (c : Client) (build : String) :
    List Device → Session σ → List ScanStep → Session σ → Prop
  | nil (s : Session σ) : Asks c build [] s [] s
  | cons {d : Device} {ds : List Device} {s s₁ s₂ : Session σ} {step : ScanStep}
      {steps : List ScanStep} (head : c.Says build d.identifier s step s₁)
      (tail : Asks c build ds s₁ steps s₂) : Asks c build (d :: ds) s (step :: steps) s₂

/-- The steps of a search send the requests for their devices, in order. -/
theorem Asks.log {c : Client} {build : String} {ds : List Device} {s s' : Session σ}
    {steps : List ScanStep} (h : c.Asks build ds s steps s') :
    s'.log = s.log ++ c.requests (ds.map fun d => .device d.identifier) := by
  induction h with
  | nil s => simp
  | cons head _ ih =>
      rw [ih, head.session_eq, device, get_log, List.append_assoc, ← requests_append]
      rfl

/-- **The search stops right after the first step that finds a version.**  The devices asked are
those up to that step, or all of them if there is none. -/
theorem scanDevices_asks (c : Client) (build : String) (ds : List Device) (s : Session σ) :
    ∃ asked left steps s', ds = asked ++ left ∧ c.Asks build asked s steps s' ∧
      ((∃ version before, steps = before ++ [.found version] ∧
          (∀ x ∈ before, x.version? = none) ∧ c.scanDevices build ds s = (some version, s')) ∨
        (left = [] ∧ (∀ x ∈ steps, x.version? = none) ∧
          c.scanDevices build ds s = (none, s'))) := by
  induction ds generalizing s with
  | nil => exact ⟨[], [], [], s, rfl, .nil s, Or.inr ⟨rfl, by simp, rfl⟩⟩
  | cons d ds ih =>
      rcases hstep : c.scanDevice d.identifier build s with ⟨step, s₁⟩
      have hsays : c.Says build d.identifier s step s₁ := scanDevice_eq_iff.1 hstep
      cases hversion : step.version? with
      | some version =>
          -- the search ends here
          obtain rfl : step = .found version := by
            cases step <;> simp_all [ScanStep.version?]
          refine ⟨[d], ds, [.found version], s₁, rfl, .cons hsays (.nil s₁),
            Or.inl ⟨version, [], rfl, by simp, ?_⟩⟩
          simp only [scanDevices, hstep]
      | none =>
          -- the search goes on with the devices that are left, in the session that this step left
          have hnext : c.scanDevices build (d :: ds) s = c.scanDevices build ds s₁ := by
            cases step with
            | found version => simp [ScanStep.version?] at hversion
            | missing => simp only [scanDevices, hstep]
            | skipped e => simp only [scanDevices, hstep]
          obtain ⟨asked, left, steps, s', hsplit, hasks, hend⟩ := ih s₁
          refine ⟨d :: asked, left, step :: steps, s', by rw [hsplit, List.cons_append],
            .cons hsays hasks, ?_⟩
          rw [hnext]
          rcases hend with ⟨version, before, rfl, hbefore, hrun⟩ | ⟨hleft, hnone, hrun⟩
          · refine Or.inl ⟨version, step :: before, rfl, ?_, hrun⟩
            intro x hx
            rcases List.mem_cons.1 hx with rfl | hx
            · exact hversion
            · exact hbefore x hx
          · refine Or.inr ⟨hleft, ?_, hrun⟩
            intro x hx
            rcases List.mem_cons.1 hx with rfl | hx
            · exact hversion
            · exact hnone x hx

/-! ### Before and after the devices -/

def buildNotFound (build : String) : ApiError :=
  .notFound ("build " ++ build ++ " did not match a version in the ipsw.me API")

theorem versionOfBuild_of_error {c : Client} {s s₁ : Session σ} {e : ApiError} (build : String)
    (h : c.allDevices.run s = (.error e, s₁)) :
    (c.versionOfBuild build).run s =
      (.error (.context "failed to get all devices from ipsw.me API" e), s₁) :=
  Call.run_bind_error (Call.run_inStep_error h)

theorem versionOfBuild_of_ok {c : Client} {s s₁ s₂ : Session σ} {ds : List Device}
    {result : Option String} {build : String} (h : c.allDevices.run s = (.ok ds, s₁))
    (hscan : c.scanDevices build ds.reverse s₁ = (result, s₂)) :
    (c.versionOfBuild build).run s =
      (result.elim (.error (buildNotFound build)) .ok, s₂) := by
  rw [versionOfBuild, Call.run_bind_ok (Call.run_inStep_ok h), Call.run_bind_ok (Call.run_lift hscan)]
  cases result with
  | none => rfl
  | some version => rfl

theorem allDevices_log {c : Client} {s s₁ : Session σ} {result : Except ApiError (List Device)}
    (h : c.allDevices.run s = (result, s₁)) : s₁.log = s.log ++ c.requests [.devices] := by
  have hlog := get_log c (Json.list Device.decoder) .devices s
  rw [show (c.get (Json.list Device.decoder) .devices).run s = (result, s₁) from h] at hlog
  exact hlog

/-! ### Names too long to ask for -/

/-- A name of more letters than an address may have is never asked for. -/
theorem isSendable_of_letters {text : String} {c : Client}
    (hbase : baseUrl? text = .ok c.base) (hweb : Scheme.isWeb c.base.scheme = true) {s : List Char}
    (hletters : ∀ ch ∈ s, Url.isLetter ch = true) (hlong : 65534 < s.length) :
    (c.request (.device (String.ofList s))).isSendable = false := by
  have hlayout : ∀ ch ∈ s, Url.isLayout ch = false := fun ch hch =>
    Url.isLayout_letter (hletters ch hch)
  have hplain : (Endpoint.device (String.ofList s)).isPlain = true := by
    rw [Endpoint.isPlain, List.all_eq_true]
    intro t ht
    rw [Endpoint.arguments, List.map_singleton, String.toList_ofList, List.mem_singleton] at ht
    subst ht
    rw [Bool.and_eq_true, Bool.not_eq_true', Bool.not_eq_true', BaseUrl.isLeftOut_eq_false_iff,
      List.any_eq_false]
    refine ⟨⟨?_, ?_⟩, fun ch hch => Bool.eq_false_iff.1 (hlayout ch hch)⟩
    all_goals
      rintro rfl
      exact absurd hlong (by decide)
  have hself := BaseUrl.encodeSegment_letters c.base.scheme hletters
  have hpath := Endpoint.url_path_of_isPlain (Scheme.beq_file_of_isWeb hweb)
    (segments_ne_slash hbase hweb) hplain
  refine Request.isSendable_of_long ?_
  rw [request, Request.pathText_ofUrl, Url.pathText, url, hpath, Endpoint.written,
    Endpoint.arguments, List.map_singleton, String.toList_ofList, hself]
  simp only [UrlPath.render, List.flatMap_append, List.length_append, List.flatMap_cons,
    List.length_cons]
  omega

/-- A server that lists one device whose name is too long to ask for is asked for the catalog only. -/
theorem versionOfBuild_log_of_letters {text : String} {c : Client}
    (hbase : baseUrl? text = .ok c.base) (hweb : Scheme.isWeb c.base.scheme = true)
    (hsent : (c.request .devices).isSendable = true) {name : List Char}
    (hletters : ∀ ch ∈ name, Url.isLetter ch = true) (hlong : 65534 < name.length)
    (build : String) :
    ∃ (server : Server Unit) (s₁ : Session Unit),
      c.allDevices.run (.start server ()) = (.ok [{ identifier := String.ofList name }], s₁) ∧
      ((c.versionOfBuild build).run (.start server ())).2.log = [c.request .devices] := by
  -- the server gives the same catalog whatever it is asked
  let d : Device := { identifier := String.ofList name }
  let body := Utf8.encode (Json.array [d.toJson]).render.toList
  let server : Server Unit := ⟨fun _ _ => (.answer .success body, ())⟩
  let s₁ : Session Unit := ⟨server, (), [c.request .devices]⟩
  have hread : Json.decode (Json.list Device.decoder) (String.ofList (Utf8.decodeLossy body)) =
      .ok [d] := by
    rw [Utf8.decodeLossy_encode, String.ofList_toList]
    exact Json.decode_render (Json.reads_list (.cons (Device.reads_toJson d) .nil))
  have hcatalog : c.allDevices.run (.start server ()) = (.ok [d], s₁) := by
    rw [allDevices, get_run hsent, ← interpret_ok hread (c.request .devices).url]
    rfl
  have hunsent : (c.request (.device d.identifier)).isSendable = false :=
    isSendable_of_letters hbase hweb hletters hlong
  obtain ⟨e, hskipped⟩ : ∃ e, c.scanDevice d.identifier build s₁ = (.skipped e, s₁) :=
    ⟨_, Says.scanDevice_eq (.skipped (get_run_unsendable hunsent Device.decoder s₁))⟩
  have hscan : c.scanDevices build [d] s₁ = (none, s₁) := by
    simp only [scanDevices, hskipped]
  refine ⟨server, s₁, hcatalog, ?_⟩
  rw [versionOfBuild_of_ok hcatalog hscan]

/-! ### The search as a whole -/

/-- **The search for a build.**  Without a catalog it fails with the error of the catalog, put into
its context, and asks for nothing else.  With a catalog it asks the devices one after another, from
the last one on, each in the session that the one before left, until one of them has the build: then
it gives the version that this device gives.  If none of them has, because it does not or because
there is no record of it, the version is not found; there is no other error.  A device is passed over
exactly if it cannot be asked or its reply holds no record.  The requests sent are those for the
catalog and for the devices asked, in this order, as far as they can be sent; that for the catalog
goes to the base address followed by `devices`. -/
theorem versionOfBuild_run (c : Client) (build : String) (s : Session σ) :
    (∀ e s₁, c.allDevices.run s = (.error e, s₁) →
      (c.versionOfBuild build).run s =
          (.error (.context "failed to get all devices from ipsw.me API" e), s₁) ∧
        s₁.log = s.log ++ c.requests [.devices]) ∧
    (∀ ds s₁, c.allDevices.run s = (.ok ds, s₁) →
      ∃ asked left steps s₂, ds.reverse = asked ++ left ∧ c.Asks build asked s₁ steps s₂ ∧
        s₂.log = s.log ++
          c.requests (.devices :: asked.map fun d => .device d.identifier) ∧
        ((∃ version before, steps = before ++ [.found version] ∧
            (∀ x ∈ before, x.version? = none) ∧
            (c.versionOfBuild build).run s = (.ok version, s₂)) ∨
          (left = [] ∧ (∀ x ∈ steps, x.version? = none) ∧
            (c.versionOfBuild build).run s = (.error (buildNotFound build), s₂)))) ∧
    (∀ identifier (s₁ : Session σ),
      (∃ e s₂, c.Says build identifier s₁ (.skipped e) s₂) ↔
        (c.request (.device identifier)).isSendable = false ∨
          (s₁.server.reply s₁.state (c.request (.device identifier))).1.GivesNo
            Device.decoder) ∧
    (∀ text, baseUrl? text = .ok c.base → Scheme.isWeb c.base.scheme = true →
      (c.url .devices).render = c.base.render ++ "devices") := by
  refine ⟨?_, ?_, fun identifier s₁ => says_skipped_iff, ?_⟩
  · intro e s₁ h
    exact ⟨versionOfBuild_of_error build h, allDevices_log h⟩
  · intro ds s₁ h
    obtain ⟨asked, left, steps, s₂, hsplit, hasks, hend⟩ := scanDevices_asks c build ds.reverse s₁
    refine ⟨asked, left, steps, s₂, hsplit, hasks, ?_, ?_⟩
    · rw [hasks.log, allDevices_log h, List.append_assoc, ← requests_append]
      rfl
    · rcases hend with ⟨version, before, hsteps, hbefore, hscan⟩ | ⟨hleft, hnone, hscan⟩
      · exact Or.inl ⟨version, before, hsteps, hbefore, versionOfBuild_of_ok h hscan⟩
      · exact Or.inr ⟨hleft, hnone, versionOfBuild_of_ok h hscan⟩
  · intro text hbase hweb
    rw [url, Url.render, Endpoint.url_render_of_isPlain (Scheme.beq_file_of_isWeb hweb)
      (segments_ne_slash hbase hweb) rfl, String.ofList_append, String.ofList_append]
    exact String.append_empty

/-- A catalog may list a device whose name is too long to ask for: it is searched in vain, and no
request is sent for it. -/
theorem versionOfBuild_unsent :
    ∃ (c : Client) (server : Server Unit) (s₁ : Session Unit),
      baseUrl? "http://[::1]/v4" = .ok c.base ∧ Scheme.isWeb c.base.scheme = true ∧
      c.allDevices.run (.start server ()) =
        (.ok [{ identifier := String.ofList (List.replicate 65535 'a') }], s₁) ∧
      ((c.versionOfBuild "19A346").run (.start server ())).2.log =
        [c.request .devices] ∧
      ((c.versionOfBuild "19A346").run (.start server ())).2.log ≠
        [c.request .devices,
          c.request (.device (String.ofList (List.replicate 65535 'a')))] := by
  have hletters : ∀ ch ∈ List.replicate 65535 'a', Url.isLetter ch = true := by
    intro ch hch
    rw [(List.mem_replicate.1 hch).2]
    rfl
  have hlong : 65534 < (List.replicate 65535 'a').length := by
    rw [List.length_replicate]
    decide
  obtain ⟨server, s₁, hcatalog, hlog⟩ := versionOfBuild_log_of_letters baseUrl?_loopback rfl
    (by decide) hletters hlong "19A346"
  refine ⟨.loopback [['v', '4']], server, s₁, baseUrl?_loopback, rfl, hcatalog, hlog, fun h => ?_⟩
  rw [hlog] at h
  cases (List.cons.inj h).2

end Client

end FirmwareCatalog
