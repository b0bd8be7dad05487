/-
**What settings are checked for is what a client needs.**

The base address of a catalog is looked at twice.  The settings have to give one of the web before they
become a transport; the client, when it is set up, reads the same text once more, and takes any address
that something can be placed below.  The second check never refuses what the first one has let pass:
an address of the web has a host, and a path of segments.  So what can still be missing are usable
certificates and a name that can be sent, and a client that is set up asks the server that the settings
name.

Main definitions:

* `Settings.IsBasedAt` — settings whose base is an address of the web;
* `Transport.IsOf` — the transport that settings describe;
* `Client.IsFor` — clients that ask the server of an address.

Main results:

* `Settings.checkBaseUrl_eq_ok_iff` — what the first check lets pass;
* `Settings.transport_eq_ok_iff` — settings that become a transport;
* `Client.ofTransport_eq_ok_iff`, `Client.ofTransport_error` — transports that a client is set up for;
* `Settings.transport_connects` — **settings that pass their checks lead to the server they name**.
-/
import FirmwareCatalog.Api.Connect
import FirmwareCatalog.Proofs.Api.Origin
import FirmwareCatalog.Settings.Validate

set_option relaxedAutoImplicit false
set_option autoImplicit false

namespace FirmwareCatalog

/-! ### Checks -/

theorem Scheme.isWeb_iff {scheme : List Char} :
    isWeb scheme = true ↔ scheme = http ∨ scheme = https := by
  rw [isWeb, Bool.or_eq_true, beq_iff_eq, beq_iff_eq]

/-- The base is an address of the web. -/
structure Settings.IsBasedAt (s : Settings) (u : Url) : Prop where
  parse : Url.parse s.api.baseUrl = .ok u
  scheme : u.scheme = Scheme.http ∨ u.scheme = Scheme.https

namespace ApiSettings

theorem checkBaseUrl_of_fault {a : ApiSettings} {fault : UrlFault}
    (h : Url.parse a.baseUrl = .error fault) :
    a.checkBaseUrl =
      .error (.invalid .baseUrl ("invalid URL '" ++ a.baseUrl ++ "': " ++ fault.message)) := by
  simp only [checkBaseUrl, h]

theorem checkBaseUrl_of_scheme {a : ApiSettings} {u : Url} (h : Url.parse a.baseUrl = .ok u)
    (hscheme : ¬ (u.scheme = Scheme.http ∨ u.scheme = Scheme.https)) :
    a.checkBaseUrl =
      .error (.invalid .baseUrl ("expected an http(s) URL, got '" ++ a.baseUrl ++ "'")) := by
  have hweb : u.isWeb = false := Bool.eq_false_iff.2 fun h => hscheme (Scheme.isWeb_iff.1 h)
  simp only [checkBaseUrl, h, hweb, Bool.false_eq_true, if_false]

end ApiSettings

namespace Settings

/-- The base passes exactly if it is an address of the web. -/
theorem checkBaseUrl_eq_ok_iff {s : Settings} :
    s.api.checkBaseUrl = .ok () ↔ ∃ u, s.IsBasedAt u := by
  constructor
  · intro hcheck
    cases hparse : Url.parse s.api.baseUrl with
    | error fault =>
        rw [ApiSettings.checkBaseUrl_of_fault hparse] at hcheck
        cases hcheck
    | ok u =>
        by_cases hscheme : u.scheme = Scheme.http ∨ u.scheme = Scheme.https
        · exact ⟨u, hparse, hscheme⟩
        · rw [ApiSettings.checkBaseUrl_of_scheme hparse hscheme] at hcheck
          cases hcheck
  · rintro ⟨u, hparse, hscheme⟩
    have hweb : u.isWeb = true := Scheme.isWeb_iff.2 hscheme
    simp only [ApiSettings.checkBaseUrl, hparse, hweb, if_true]

theorem checkTimeout_eq_ok_iff {s : Settings} : s.api.checkTimeout = .ok () ↔ s.api.timeout ≠ 0 := by
  rw [ApiSettings.checkTimeout]
  by_cases h : s.api.timeout = 0
  · rw [if_pos h]
    exact iff_of_false (fun herror => by cases herror) fun hne => hne h
  · rw [if_neg h]
    exact iff_of_true rfl h

/-! ### Transports -/

theorem transport_of_base_error {s : Settings} {e : SettingsError}
    (h : s.api.checkBaseUrl = .error e) : s.transport = .error e :=
  bind_eq_error_iff.2 (Or.inl h)

theorem transport_of_timeout_zero {s : Settings} {u : Url} (hbase : s.IsBasedAt u)
    (h : s.api.timeout = 0) :
    s.transport = .error (.invalid .timeout "must be at least 1 second") := by
  have hcheck : s.api.checkTimeout = .error (.invalid .timeout "must be at least 1 second") := if_pos h
  exact bind_eq_error_iff.2 (Or.inr ⟨(), checkBaseUrl_eq_ok_iff.2 ⟨u, hbase⟩,
    bind_eq_error_iff.2 (Or.inl hcheck)⟩)

/-- **Settings become a transport exactly if both checks pass.** -/
theorem transport_eq_ok_iff {s : Settings} {t : Transport} :
    s.transport = .ok t ↔ (∃ u, s.IsBasedAt u) ∧ s.api.timeout ≠ 0 ∧
      t = ⟨s.api.baseUrl, s.api.trust, .ofSeconds s.api.timeout.toNat,
        s.api.userAgent.getD Transport.defaultUserAgent⟩ := by
  rw [transport, check_eq_ok_iff, check_eq_ok_iff, checkBaseUrl_eq_ok_iff, checkTimeout_eq_ok_iff]
  refine and_congr_right fun _ => and_congr_right fun _ => ?_
  constructor
  · intro h
    cases h
    rfl
  · rintro rfl
    rfl

end Settings

/-- The transport says what the settings do, and the usual name where they have none. -/
structure Transport.IsOf (t : Transport) (s : Settings) : Prop where
  baseUrl : t.baseUrl = s.api.baseUrl
  seconds : t.timeout.seconds = s.api.timeout.toNat
  subsecond : t.timeout.subsecond = 0
  userAgent : t.userAgent = s.api.userAgent.getD Transport.defaultUserAgent
  trust : ∀ p, t.trust = .alsoFile p ↔ s.api.certificates = some p

theorem ApiSettings.trust_eq_iff {a : ApiSettings} {p : Path} :
    a.trust = .alsoFile p ↔ a.certificates = some p := by
  rw [trust]
  cases a.certificates with
  | none => simp
  | some q => simp

/-- **The transport is that of the settings.** -/
theorem Settings.isOf_transport {s : Settings} {t : Transport} (h : s.transport = .ok t) :
    t.IsOf s := by
  obtain ⟨-, -, rfl⟩ := transport_eq_ok_iff.1 h
  obtain ⟨hseconds, hsubsecond⟩ := Duration.ofSeconds_split s.api.timeout.toNat
  exact ⟨rfl, hseconds, hsubsecond, rfl, fun _ => ApiSettings.trust_eq_iff⟩

/-! ### Clients -/

namespace Client

theorem certificateFile_error {files : FileTree} {cwd : Location} {trust : Trust} {e : ApiError}
    (h : certificateFile files cwd trust = .error e) : ∃ reason, e = .tls reason := by
  cases trust with
  | system => cases h
  | alsoFile path =>
      simp only [certificateFile] at h
      split at h
      · cases h
      · cases h
        exact ⟨_, rfl⟩

/-- **A client is set up** exactly if the file of certificates can be read, the name and the
certificates can be used, and the base is an address that something can be placed below. -/
theorem ofTransport_eq_ok_iff {files : FileTree} {cwd : Location} {t : Transport} {c : Client} :
    ofTransport files cwd t = .ok c ↔
      (∃ file, certificateFile files cwd t.trust = .ok file ∧
        (isHeaderText t.userAgent && file.all Certificate.areUsable) = true) ∧
      baseUrl? t.baseUrl = .ok c.base ∧ c.userAgent = some t.userAgent := by
  rw [ofTransport, bind_eq_ok_iff]
  constructor
  · rintro ⟨file, hfile, h⟩
    by_cases husable : (isHeaderText t.userAgent && file.all Certificate.areUsable) = true
    · rw [if_pos husable] at h
      obtain ⟨b, hb, hc⟩ := bind_eq_ok_iff.1 h
      cases hc
      exact ⟨⟨file, hfile, husable⟩, hb, rfl⟩
    · rw [if_neg husable] at h
      cases h
  · rintro ⟨⟨file, hfile, husable⟩, hb, hname⟩
    refine ⟨file, hfile, ?_⟩
    rw [if_pos husable, ← hname]
    exact bind_eq_ok_iff.2 ⟨c.base, hb, rfl⟩

/-- **If the base is one, then only the certificates or the name can be at fault.** -/
theorem ofTransport_error {files : FileTree} {cwd : Location} {t : Transport} {b : BaseUrl}
    {e : ApiError} (hbase : baseUrl? t.baseUrl = .ok b)
    (h : ofTransport files cwd t = .error e) : ∃ reason, e = .tls reason := by
  rw [ofTransport] at h
  rcases bind_eq_error_iff.1 h with hfile | ⟨file, -, h⟩
  · exact certificateFile_error hfile
  · by_cases husable : (isHeaderText t.userAgent && file.all Certificate.areUsable) = true
    · rw [if_pos husable, hbase] at h
      cases h
    · rw [if_neg husable] at h
      cases h
      exact ⟨_, rfl⟩

/-- The client asks the server of the address: its base has the same scheme, user, host and port, and
so has every address that it asks for.  Each request is the one for such an address.  Requests that
answers lead on to are not among these. -/
structure IsFor (c : Client) (u : Url) : Prop where
  scheme : c.base.toUrl.scheme = u.scheme
  authority : c.base.toUrl.authority = u.authority
  requests : ∀ {σ : Type} (q : Question) (s : Session σ), ∃ sent,
    ((c.ask q).run s).2.log = s.log ++ sent ∧ ∀ r ∈ sent, r.LeadsTo c.base ∧
      ∃ asked : Url, asked.scheme = u.scheme ∧ asked.authority = u.authority ∧
        r = .ofUrl asked c.userAgent

/-- **A client of the web asks the server of its base.** -/
theorem isFor_of_parse {text : String} {c : Client} {u : Url} (hu : Url.parse text = .ok u)
    (hweb : Scheme.isWeb u.scheme = true) (hbase : baseUrl? text = .ok c.base) : c.IsFor u := by
  obtain ⟨b, hb, hscheme, hauthority⟩ := baseUrl?_of_parse hu hweb
  obtain rfl : b = c.base := Except.ok.inj (hb.symm.trans hbase)
  have hweb' : Scheme.isWeb c.base.scheme = true := by
    rw [show c.base.scheme = u.scheme from hscheme]
    exact hweb
  refine ⟨hscheme, hauthority, fun q s => ?_⟩
  obtain ⟨es, hlog⟩ := c.ask_log q s
  refine ⟨c.requests es, hlog, fun r hr => ?_⟩
  obtain ⟨e, rfl⟩ := exists_of_mem_requests hr
  have hleads := url_leadsTo hbase hweb' e
  obtain ⟨a, hbasea, ha⟩ := hleads.authority
  exact ⟨hleads.ofUrl c.userAgent, c.url e, hleads.scheme.trans hscheme,
    ha.trans (hbasea.symm.trans hauthority), rfl⟩

end Client

/-- **Settings that pass their checks lead to the server they name.**  They become a transport exactly
if their base is an address of the web and their time limit is not zero; a fault of the base is told
first, and then one of the time limit.  The transport says what the settings do.  A client for it can
fail to be set up only for its certificates or its name, and all that it asks for is at the server of
the base.  (Where an answer points elsewhere, the request is sent on without the client having a say in
it; a session does not show that.) -/
theorem Settings.transport_connects (s : Settings) :
    ((∃ t, s.transport = .ok t) ↔ (∃ u, s.IsBasedAt u) ∧ s.api.timeout ≠ 0) ∧
    (∀ fault, Url.parse s.api.baseUrl = .error fault →
      s.transport =
        .error (.invalid .baseUrl ("invalid URL '" ++ s.api.baseUrl ++ "': " ++ fault.message))) ∧
    (∀ u, Url.parse s.api.baseUrl = .ok u → ¬ (u.scheme = Scheme.http ∨ u.scheme = Scheme.https) →
      s.transport =
        .error (.invalid .baseUrl ("expected an http(s) URL, got '" ++ s.api.baseUrl ++ "'"))) ∧
    (∀ u, s.IsBasedAt u → s.api.timeout = 0 →
      s.transport = .error (.invalid .timeout "must be at least 1 second")) ∧
    ∀ t, s.transport = .ok t → t.IsOf s ∧
      ∀ (files : FileTree) (cwd : Location),
        (∀ e, Client.ofTransport files cwd t = .error e → ∃ reason, e = .tls reason) ∧
        ∀ c, Client.ofTransport files cwd t = .ok c → ∀ u, s.IsBasedAt u → c.IsFor u := by
  refine ⟨?_, ?_, ?_, fun u => transport_of_timeout_zero, fun t ht => ⟨isOf_transport ht, ?_⟩⟩
  · constructor
    · rintro ⟨t, ht⟩
      obtain ⟨hbase, htimeout, -⟩ := transport_eq_ok_iff.1 ht
      exact ⟨hbase, htimeout⟩
    · rintro ⟨hbase, htimeout⟩
      exact ⟨_, transport_eq_ok_iff.2 ⟨hbase, htimeout, rfl⟩⟩
  · intro fault hparse
    exact transport_of_base_error (ApiSettings.checkBaseUrl_of_fault hparse)
  · intro u hparse hscheme
    exact transport_of_base_error (ApiSettings.checkBaseUrl_of_scheme hparse hscheme)
  · -- Both checks look at one text: the transport has the base of the settings unchanged.
    intro files cwd
    have htext : t.baseUrl = s.api.baseUrl := (isOf_transport ht).baseUrl
    obtain ⟨⟨u, hparse, hscheme⟩, -, -⟩ := transport_eq_ok_iff.1 ht
    obtain ⟨b, hb, -, -⟩ := Client.baseUrl?_of_parse hparse (Scheme.isWeb_iff.2 hscheme)
    rw [← htext] at hb
    refine ⟨fun e => Client.ofTransport_error hb, fun c hc u' hbased => ?_⟩
    obtain ⟨-, hbase, -⟩ := Client.ofTransport_eq_ok_iff.1 hc
    rw [htext] at hbase
    exact Client.isFor_of_parse hbased.parse (Scheme.isWeb_iff.2 hbased.scheme) hbase

/-- Blanks around the base, large letters and the other slashes are no fault of it. -/
theorem Settings.transport_connects_blanks :
    ∃ t c u, Settings.transport ⟨{ baseUrl := " HTTP:\\\\user@[::1]:80\t", timeout := 1 }⟩ = .ok t ∧
      Client.ofTransport .empty [] t = .ok c ∧ c.IsFor u ∧ u.render = "http://user@[::1]/" := by
  let s : Settings := ⟨{ baseUrl := " HTTP:\\\\user@[::1]:80\t", timeout := 1 }⟩
  let a : Authority := ⟨"user".toList, [], some (.ipv6 ⟨[0, 0, 0, 0, 0, 0, 0, 1], rfl⟩), none⟩
  let u : Url := ⟨Scheme.http, some a, false, .segments [[]], none, none⟩
  let t : Transport := ⟨s.api.baseUrl, .system, .ofSeconds 1, Transport.defaultUserAgent⟩
  have hparse : Url.parse " HTTP:\\\\user@[::1]:80\t" = .ok u := by rfl
  have hbased : s.IsBasedAt u := ⟨hparse, Or.inl rfl⟩
  have ht : s.transport = .ok t := transport_eq_ok_iff.2 ⟨⟨u, hbased⟩, by decide, rfl⟩
  have hbase : Client.baseUrl? t.baseUrl = .ok ⟨Scheme.http, some a, false, []⟩ := by
    simp only [Client.baseUrl?, show Url.parse t.baseUrl = .ok u from hparse]
    rfl
  have hc : Client.ofTransport .empty [] t = .ok ⟨_, some t.userAgent⟩ :=
    Client.ofTransport_eq_ok_iff.2 ⟨⟨none, rfl, by decide⟩, hbase, rfl⟩
  obtain ⟨-, -, -, -, hclient⟩ := transport_connects s
  exact ⟨t, _, u, ht, hc, ((hclient t ht).2 .empty []).2 _ hc u hbased, by decide⟩

end FirmwareCatalog
