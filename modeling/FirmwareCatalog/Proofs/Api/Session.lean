/-
**What a call does to a session.**

A call is run against a session and leaves another one behind.  Whatever a client asks, the server in
the session stays the same machine, and the log only grows: by one request for each endpoint asked
for, as long as a request can be sent to its address at all, and by nothing otherwise.

Main definitions:

* `Client.requests` — the requests that asking for some endpoints in turn sends;
* `Reply.GivesNo` — replies that do not hold what was asked for;
* `Client.IsAnswered` — an answer with status 200 and some text, `Server.saying` — a server that has
  no other.

Main results:

* `Call.run_bind_ok`, `Call.run_bind_error` — a call after another one, `Call.run_bind_ok_iff`,
  `Call.run_bind_error_iff` — when both have a result, and which of the two fails;
* `Client.get_run`, `Client.get_run_unsendable` — one question, as a whole;
* `Client.get_server`, `Client.get_log` — **what one question leaves behind**;
* `Client.get_error_iff` — which questions fail;
* `Client.IsAnswered.get_run` — what an answer means depends on its text alone.
-/
import FirmwareCatalog.Api.Queries
import FirmwareCatalog.Proofs.Text.Utf8

set_option relaxedAutoImplicit false
set_option autoImplicit false

namespace FirmwareCatalog

variable {σ α β : Type}

/-! ### Calls after one another -/

namespace Call

/-- What follows a call that has a result goes on with its session. -/
theorem run_bind_ok {call : Call σ α} {next : α → Call σ β} {s s' : Session σ} {a : α}
    (h : call.run s = (.ok a, s')) : (call >>= next).run s = (next a).run s' := by
  rw [ExceptT.run_bind]
  simp only [bind, StateT.bind, h]

/-- What follows a call that has an error is not run. -/
theorem run_bind_error {call : Call σ α} {next : α → Call σ β} {s s' : Session σ} {e : ApiError}
    (h : call.run s = (.error e, s')) : (call >>= next).run s = (.error e, s') := by
  rw [ExceptT.run_bind]
  simp only [bind, StateT.bind, h]
  rfl

/-- Of two calls after one another the first one fails, or the second one in the session of the
first. -/
theorem run_bind_error_iff {call : Call σ α} {next : α → Call σ β} {s s' : Session σ}
    {e : ApiError} :
    (call >>= next).run s = (.error e, s') ↔
      call.run s = (.error e, s') ∨
        ∃ a s₁, call.run s = (.ok a, s₁) ∧ (next a).run s₁ = (.error e, s') := by
  rcases hrun : call.run s with ⟨result, s₁⟩
  cases result with
  | ok a =>
      rw [run_bind_ok hrun]
      constructor
      · intro h
        exact Or.inr ⟨a, s₁, rfl, h⟩
      · rintro (h | ⟨b, s₂, h, hnext⟩)
        · cases h
        · cases h
          exact hnext
  | error e₁ =>
      rw [run_bind_error hrun]
      constructor
      · intro h
        cases h
        exact Or.inl rfl
      · rintro (h | ⟨b, s₂, h, -⟩)
        · cases h
          rfl
        · cases h

/-- Two calls after one another have a result if both have, the second one in the session of the
first. -/
theorem run_bind_ok_iff {call : Call σ α} {next : α → Call σ β} {s s' : Session σ} {b : β} :
    (call >>= next).run s = (.ok b, s') ↔
      ∃ a s₁, call.run s = (.ok a, s₁) ∧ (next a).run s₁ = (.ok b, s') := by
  rcases hrun : call.run s with ⟨result, s₁⟩
  cases result with
  | ok a =>
      rw [run_bind_ok hrun]
      constructor
      · intro h
        exact ⟨a, s₁, rfl, h⟩
      · rintro ⟨a', s₂, h, hnext⟩
        cases h
        exact hnext
  | error e =>
      rw [run_bind_error hrun]
      constructor
      · intro h
        cases h
      · rintro ⟨a', s₂, h, -⟩
        cases h

theorem run_pure_ne_error (a : α) (s s' : Session σ) (e : ApiError) :
    (pure a : Call σ α).run s ≠ (.error e, s') := by
  intro h
  cases h

theorem run_inStep_ok {step : String} {call : Call σ α} {s s' : Session σ} {a : α}
    (h : call.run s = (.ok a, s')) : (Call.inStep step call).run s = (.ok a, s') := by
  simp only [Call.inStep, ExceptT.run_mk, h]

theorem run_inStep_error {step : String} {call : Call σ α} {s s' : Session σ} {e : ApiError}
    (h : call.run s = (.error e, s')) :
    (Call.inStep step call).run s = (.error (.context step e), s') := by
  simp only [Call.inStep, ExceptT.run_mk, h]

/-- A call in a context fails as the call does, with one layer more. -/
theorem run_inStep_error_iff {step : String} {call : Call σ α} {s s' : Session σ} {e : ApiError} :
    (Call.inStep step call).run s = (.error e, s') ↔
      ∃ inner, e = .context step inner ∧ call.run s = (.error inner, s') := by
  rcases hrun : call.run s with ⟨result, s₁⟩
  cases result with
  | ok a =>
      rw [run_inStep_ok hrun]
      constructor
      · intro h
        cases h
      · rintro ⟨inner, -, h⟩
        cases h
  | error e₁ =>
      rw [run_inStep_error hrun]
      constructor
      · intro h
        cases h
        exact ⟨e₁, rfl, rfl⟩
      · rintro ⟨inner, rfl, h⟩
        cases h
        rfl

/-- A result in a context is the result of the call. -/
theorem run_inStep_ok_iff {step : String} {call : Call σ α} {s s' : Session σ} {a : α} :
    (Call.inStep step call).run s = (.ok a, s') ↔ call.run s = (.ok a, s') := by
  constructor
  · intro h
    rcases hrun : call.run s with ⟨result, s₁⟩
    cases result with
    | ok b =>
        rw [run_inStep_ok hrun] at h
        exact h
    | error e =>
        rw [run_inStep_error hrun] at h
        cases h
  · exact run_inStep_ok

/-- The first item that fits is missing exactly if none fits, and nothing is asked for it. -/
theorem run_first_error_iff {items : List α} {fits : α → Bool} {missing : String}
    {s s' : Session σ} {e : ApiError} :
    (Call.first items fits missing : Call σ α).run s = (.error e, s') ↔
      (∀ a ∈ items, fits a = false) ∧ e = .notFound missing ∧ s' = s := by
  unfold Call.first
  cases hfind : items.find? fits with
  | none =>
      have hnone : ∀ a ∈ items, fits a = false := by simpa using hfind
      constructor
      · intro h
        cases h
        exact ⟨hnone, rfl, rfl⟩
      · rintro ⟨-, rfl, rfl⟩
        rfl
  | some a =>
      constructor
      · intro h
        exact absurd h (run_pure_ne_error a s s' e)
      · rintro ⟨hnone, -, -⟩
        have hfits : fits a = true := List.find?_some hfind
        rw [hnone a (List.mem_of_find?_eq_some hfind)] at hfits
        cases hfits

/-- The first item that fits is found without asking for anything. -/
theorem run_first_ok_iff {items : List α} {fits : α → Bool} {missing : String} {s s' : Session σ}
    {a : α} :
    (Call.first items fits missing : Call σ α).run s = (.ok a, s') ↔
      items.find? fits = some a ∧ s' = s := by
  unfold Call.first
  cases items.find? fits with
  | none =>
      constructor
      · intro h
        cases h
      · rintro ⟨h, -⟩
        cases h
  | some b =>
      constructor
      · intro h
        cases h
        exact ⟨rfl, rfl⟩
      · rintro ⟨h, rfl⟩
        cases h
        rfl

theorem run_lift {step : StateM (Session σ) α} {s s' : Session σ} {a : α}
    (h : step s = (a, s')) : (ExceptT.lift step : Call σ α).run s = (.ok a, s') := by
  simp only [ExceptT.run_lift]
  simp only [Functor.map, StateT.map, bind, h]
  rfl

end Call

/-! ### Replies without the value asked for -/

/-- The reply does not hold what was asked for: nothing usable comes back, or another status than
200, or a body that cannot be decoded. -/
def Reply.GivesNo (decoder : Json.Decoder α) : Reply → Prop
  | .failure _ => True
  | .answer status body =>
    status ≠ .success ∨
      ∃ e, Json.decode decoder (String.ofList (Utf8.decodeLossy body)) = .error e

/-- A server that answers every request with status 200 and the text. -/
def Server.saying (text : String) : Server Unit :=
  ⟨fun _ _ => (.answer .success (Utf8.encode text.toList), ())⟩

/-! ### Requests -/

namespace Request

theorem login_ofUrl (u : Url) (userAgent : Option String) :
    (ofUrl u userAgent).login = u.login? := by
  unfold ofUrl
  cases u.login? <;> rfl

theorem url_ofUrl (u : Url) (userAgent : Option String) :
    (ofUrl u userAgent).url = if u.login?.isSome then u.withoutLogin else u := by
  unfold ofUrl
  cases u.login? <;> rfl

theorem pathText_ofUrl (u : Url) (userAgent : Option String) :
    (ofUrl u userAgent).url.pathText = u.pathText := by
  rw [url_ofUrl]
  split <;> rfl

theorem isSendable_of_long {r : Request} (h : 65534 < r.url.pathText.length) :
    r.isSendable = false := by
  have hlength : ¬ r.url.renderChars.length ≤ 65534 := by
    simp only [Url.renderChars, List.length_append]
    omega
  simp [isSendable, Url.isRequestable, hlength]

end Request

namespace Client

theorem interpret_ok {decoder : Json.Decoder α} {body : List UInt8} {a : α}
    (h : Json.decode decoder (String.ofList (Utf8.decodeLossy body)) = .ok a) (url : Url) :
    interpret decoder url (.answer .success body) = .ok a := by
  simp [interpret, understand, h]

/-- Exactly the replies without the value asked for are errors. -/
theorem interpret_isError_iff (decoder : Json.Decoder α) (url : Url) (reply : Reply) :
    (∃ e, interpret decoder url reply = .error e) ↔ reply.GivesNo decoder := by
  cases reply with
  | failure fault => simp [interpret, Reply.GivesNo]
  | answer status body =>
      simp only [interpret, understand, Reply.GivesNo]
      by_cases hs : status = .success
      · cases hd : Json.decode decoder (String.ofList (Utf8.decodeLossy body)) with
        | ok a => simp [hs]
        | error e => simp [hs]
      · simp [hs]

/-! ### One question -/

/-- The requests that asking for some endpoints in turn sends.  Those that cannot be sent are left
out. -/
def requests (c : Client) (es : List Endpoint) : List Request :=
  (es.map c.request).filter Request.isSendable

@[simp] theorem requests_nil (c : Client) : c.requests [] = [] := rfl

theorem requests_append (c : Client) (es es' : List Endpoint) :
    c.requests (es ++ es') = c.requests es ++ c.requests es' := by
  simp [requests]

/-- One question to an address that requests can be sent to is one exchange. -/
theorem get_run {c : Client} {e : Endpoint} (h : (c.request e).isSendable = true)
    (decoder : Json.Decoder α) (s : Session σ) :
    (c.get decoder e).run s =
      (interpret decoder (c.request e).url (s.exchange (c.request e)).1,
        (s.exchange (c.request e)).2) := by
  simp only [get, ExceptT.run_mk, h, if_true]

/-- One question to any other address fails, and the server does not learn of it. -/
theorem get_run_unsendable {c : Client} {e : Endpoint} (h : (c.request e).isSendable = false)
    (decoder : Json.Decoder α) (s : Session σ) :
    (c.get decoder e).run s = (.error (.transport .unsendable (c.request e).url.render), s) := by
  simp only [get, ExceptT.run_mk, h, Bool.false_eq_true, if_false]

/-- A question leaves the server the machine that it is. -/
theorem get_server (c : Client) (decoder : Json.Decoder α) (e : Endpoint) (s : Session σ) :
    ((c.get decoder e).run s).2.server = s.server := by
  cases h : (c.request e).isSendable with
  | true => rw [get_run h]; rfl
  | false => rw [get_run_unsendable h]

/-- **A question sends one request to its endpoint, or none if it cannot be sent.** -/
theorem get_log (c : Client) (decoder : Json.Decoder α) (e : Endpoint) (s : Session σ) :
    ((c.get decoder e).run s).2.log = s.log ++ c.requests [e] := by
  cases h : (c.request e).isSendable with
  | true => rw [get_run h]; simp [requests, h, Session.exchange]
  | false => rw [get_run_unsendable h]; simp [requests, h]

/-- **A question fails exactly if it cannot be sent, or the reply does not hold what is asked for.** -/
theorem get_error_iff {c : Client} {e : Endpoint} {decoder : Json.Decoder α} {s : Session σ} :
    (∃ error s', (c.get decoder e).run s = (.error error, s')) ↔
      (c.request e).isSendable = false ∨
        (s.server.reply s.state (c.request e)).1.GivesNo decoder := by
  cases hr : (c.request e).isSendable with
  | true =>
      have hiff := interpret_isError_iff decoder (c.request e).url
        (s.server.reply s.state (c.request e)).1
      rw [get_run hr]
      constructor
      · rintro ⟨error, s', hrun⟩
        exact Or.inr (hiff.1 ⟨error, (Prod.mk.inj hrun).1⟩)
      · rintro (h | h)
        · cases h
        · obtain ⟨error, herror⟩ := hiff.2 h
          exact ⟨error, _, by rw [← herror]; rfl⟩
  | false => exact ⟨fun _ => Or.inl rfl, fun _ => ⟨_, _, get_run_unsendable hr decoder s⟩⟩

/-! ### Answers -/

/-- Asked for the endpoint, the server answers with status 200 and the text, and goes on from
there. -/
structure IsAnswered (c : Client) (e : Endpoint) (s : Session σ) (text : String)
    (s' : Session σ) : Prop where
  sendable : (c.request e).isSendable = true
  reply : s.exchange (c.request e) = (.answer .success (Utf8.encode text.toList), s')

/-- **What an answer means depends on its text alone.** -/
theorem IsAnswered.get_run {c : Client} {e : Endpoint} {s s' : Session σ} {text : String}
    (h : c.IsAnswered e s text s') (decoder : Json.Decoder α) :
    (c.get decoder e).run s =
      ((Json.decode decoder text).mapError fun reason => undecodable reason text.toList, s') := by
  rw [Client.get_run h.sendable, h.reply, interpret, understand, Utf8.decodeLossy_encode]
  simp only [String.ofList_toList]
  cases Json.decode decoder text <;> rfl

theorem IsAnswered.get_ok {c : Client} {e : Endpoint} {s s' : Session σ} {text : String}
    (h : c.IsAnswered e s text s') {decoder : Json.Decoder α} {a : α}
    (ha : Json.decode decoder text = .ok a) : (c.get decoder e).run s = (.ok a, s') := by
  rw [h.get_run, ha]
  rfl

theorem IsAnswered.get_error {c : Client} {e : Endpoint} {s s' : Session σ} {text : String}
    (h : c.IsAnswered e s text s') {decoder : Json.Decoder α} {reason : Json.Error}
    (hread : Json.decode decoder text = .error reason) :
    (c.get decoder e).run s = (.error (undecodable reason text.toList), s') := by
  rw [h.get_run, hread]
  rfl

theorem isAnswered_saying {c : Client} {e : Endpoint} (h : (c.request e).isSendable = true)
    (text : String) :
    c.IsAnswered e (.start (.saying text) ()) text
      ⟨.saying text, (), [c.request e]⟩ := ⟨h, rfl⟩

end Client

end FirmwareCatalog
