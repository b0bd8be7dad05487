/-
**What one reply means.**

Six of the questions take a single request.  It is sent once, whatever comes back, and the one reply
decides: only a status of exactly 200 with a body that decodes is a result.  The body is taken as
UTF-8 with a replacement character for each fault in it; if it does not decode, the error keeps all
of that text, and its message shows how the text begins.  With any other status the body does not
matter, and where nothing usable comes back there is a transport error.

Not every address can be sent.  For one that cannot, there is no request and so no reply, and the
question fails at once.

Main definitions:

* `Question.single?` — the endpoint of a question that takes a single request, and the decoder of
  what it holds.

Main results:

* `Client.interpret_ok_iff`, `Client.interpret_of_status`, `Client.interpret_of_undecodable` — one
  reply, by what it is;
* `Client.ask_run_of_single` — such a question is that one request;
* `Client.ask_single_run` — **what the reply to it means**, `Client.ask_unsent` — and an address
  that is never sent.
-/
import FirmwareCatalog.Proofs.Api.Replies

set_option relaxedAutoImplicit false
set_option autoImplicit false

namespace FirmwareCatalog

variable {σ α β : Type}

/-! ### Changed results -/

/-- A text is decoded to a changed value as it is decoded to the value itself. -/
theorem Json.decode_map (decoder : Json.Decoder α) (f : α → β) (s : String) :
    Json.decode (fun node => (decoder node).map f) s = (Json.decode decoder s).map f := by
  simp only [Json.decode, Json.decodeChars]
  cases decoder (Json.read s.toList) with
  | error fault => rfl
  | ok a =>
      cases (Json.read s.toList).after? with
      | none => rfl
      | some rest =>
          simp only [Except.map, bind, Except.bind]
          cases Json.skipBlank rest <;> rfl

namespace Client

theorem interpret_map (decoder : Json.Decoder α) (f : α → β) (url : Url) (reply : Reply) :
    interpret (fun node => (decoder node).map f) url reply =
      (interpret decoder url reply).map f := by
  cases reply with
  | failure fault => rfl
  | answer status body =>
      simp only [interpret, understand, Json.decode_map]
      split
      · rfl
      · cases Json.decode decoder (String.ofList (Utf8.decodeLossy body)) <;> rfl

/-! ### One reply -/

/-- **Only status 200 with a body that decodes is a result.** -/
theorem interpret_ok_iff {decoder : Json.Decoder α} {url : Url} {reply : Reply} {a : α} :
    interpret decoder url reply = .ok a ↔
      ∃ body, reply = .answer ⟨200⟩ body ∧
        Json.decode decoder (String.ofList (Utf8.decodeLossy body)) = .ok a := by
  constructor
  · intro h
    cases reply with
    | failure fault => cases h
    | answer status body =>
        rw [interpret, understand] at h
        by_cases hstatus : status = .success
        · rw [if_neg fun hother => hother hstatus] at h
          cases hdecode : Json.decode decoder (String.ofList (Utf8.decodeLossy body)) with
          | error reason => simp [hdecode] at h
          | ok b =>
              simp only [hdecode] at h
              cases h
              exact ⟨body, by rw [hstatus]; rfl, hdecode⟩
        · rw [if_pos hstatus] at h
          cases h
  · rintro ⟨body, rfl, hdecode⟩
    exact interpret_ok hdecode url

/-- Any other status is an error, whatever the body. -/
theorem interpret_of_status (decoder : Json.Decoder α) (url : Url) {status : Status}
    (h : status.code ≠ 200) (body : List UInt8) :
    interpret decoder url (.answer status body) =
      .error (.status status.code (toString status.code ++ " " ++
        status.reason?.getD "<unknown status code>")) := by
  have hother : status ≠ .success := by
    rintro rfl
    exact h rfl
  rw [interpret, understand, if_pos hother]
  rfl

/-- A body that does not decode is kept as a whole, and the message shows its first 200 characters,
or all of them if there are fewer. -/
theorem interpret_of_undecodable {decoder : Json.Decoder α} {body : List UInt8}
    {reason : Json.Error}
    (h : Json.decode decoder (String.ofList (Utf8.decodeLossy body)) = .error reason) (url : Url) :
    ∃ preview rest, Utf8.decodeLossy body = preview ++ rest ∧
      preview.length = min 200 (Utf8.decodeLossy body).length ∧
      interpret decoder url (.answer ⟨200⟩ body) =
        .error (.undecodable
          (reason.message ++ " (body preview: " ++ String.ofList (Text.quoted preview) ++ ")")
          (String.ofList (Utf8.decodeLossy body))) := by
  refine ⟨(Utf8.decodeLossy body).take 200, (Utf8.decodeLossy body).drop 200,
    (List.take_append_drop 200 _).symm, List.length_take, ?_⟩
  have hsuccess : ¬ (⟨200⟩ : Status) ≠ .success := fun hother => hother rfl
  rw [interpret, understand, if_neg hsuccess]
  simp only [h]
  rfl

end Client

/-! ### Questions of a single request -/

/-- The endpoint of a question that takes a single request, and the decoder of what the reply holds.
The history of a device is part of its record. -/
def Question.single? : (q : Question) → Option (Endpoint × Json.Decoder q.Answer)
  | .allDevices => some (.devices, Json.list Device.decoder)
  | .device identifier => some (.device identifier, Device.decoder)
  | .history identifier =>
    some (.device identifier, fun node => (Device.decoder node).map Device.firmwares)
  | .firmwares version => some (.firmwares version, Json.list Firmware.decoder)
  | .firmware identifier build => some (.firmware identifier build, Firmware.decoder)
  | .releases => some (.releases, Json.list Release.decoder)
  | .buildOfVersion _ _ => none
  | .versionOfBuild _ => none
  | .sharedFirmwares _ => none
  | .successorFirmware _ => none

namespace Client

/-- The history of a device is what its record has, so it takes the request for the record. -/
theorem history_run (c : Client) (identifier : String) (s : Session σ) :
    (c.history identifier).run s =
      (c.get (fun node => (Device.decoder node).map Device.firmwares) (.device identifier)).run
        s := by
  rcases hrun : (c.device identifier).run s with ⟨result, s'⟩
  have hget : (c.get Device.decoder (.device identifier)).run s = (result, s') := hrun
  have hmap : (c.get (fun node => (Device.decoder node).map Device.firmwares)
      (.device identifier)).run s = (result.map Device.firmwares, s') := by
    cases hsend : (c.request (.device identifier)).isSendable with
    | true =>
        rw [get_run hsend] at hget ⊢
        obtain ⟨rfl, rfl⟩ := Prod.mk.inj hget
        rw [interpret_map]
    | false =>
        rw [get_run_unsendable hsend] at hget ⊢
        obtain ⟨rfl, rfl⟩ := Prod.mk.inj hget
        rfl
  rw [hmap]
  cases result with
  | ok d =>
      rw [history, Call.run_bind_ok hrun]
      rfl
  | error e =>
      rw [history, Call.run_bind_error hrun]
      rfl

/-- **A question of a single request is that one request.** -/
theorem ask_run_of_single {c : Client} {q : Question} {e : Endpoint}
    {decoder : Json.Decoder q.Answer} (single : q.single? = some (e, decoder)) (s : Session σ) :
    (c.ask q).run s = (c.get decoder e).run s := by
  cases q with
  | history identifier =>
      cases single
      exact c.history_run identifier s
  | allDevices => cases single; rfl
  | device identifier => cases single; rfl
  | firmwares version => cases single; rfl
  | firmware identifier build => cases single; rfl
  | releases => cases single; rfl
  | buildOfVersion version identifier => cases single
  | versionOfBuild build => cases single
  | sharedFirmwares version => cases single
  | successorFirmware version => cases single

/-- **What the reply to a single request means.**  The request is sent once, to the endpoint of the
question, whatever the reply is.  The question has a result exactly if the status is 200 and the
text of the body decodes to it.  Another status is an error with its number and its name; a text
that does not decode is an error that keeps the text and shows its first 200 characters; and where
nothing usable comes back the error is one of transport.  If the address cannot be sent, the error
is one of transport too, and the server does not learn of it. -/
theorem ask_single_run {c : Client} {q : Question} {e : Endpoint} {decoder : Json.Decoder q.Answer}
    (single : q.single? = some (e, decoder)) (s : Session σ) :
    ((c.request e).isSendable = true →
      ∀ reply state, s.server.reply s.state (c.request e) = (reply, state) →
        ((c.ask q).run s).2 = ⟨s.server, state, s.log ++ [c.request e]⟩ ∧
        (∀ v, ((c.ask q).run s).1 = .ok v ↔
          ∃ body, reply = .answer ⟨200⟩ body ∧
            Json.decode decoder (String.ofList (Utf8.decodeLossy body)) = .ok v) ∧
        (∀ status body, reply = .answer status body → status.code ≠ 200 →
          ((c.ask q).run s).1 = .error (.status status.code (toString status.code ++ " " ++
            status.reason?.getD "<unknown status code>"))) ∧
        (∀ body reason, reply = .answer ⟨200⟩ body →
          Json.decode decoder (String.ofList (Utf8.decodeLossy body)) = .error reason →
          ∃ preview rest, Utf8.decodeLossy body = preview ++ rest ∧
            preview.length = min 200 (Utf8.decodeLossy body).length ∧
            ((c.ask q).run s).1 = .error (.undecodable
              (reason.message ++ " (body preview: " ++ String.ofList (Text.quoted preview) ++ ")")
              (String.ofList (Utf8.decodeLossy body)))) ∧
        ∀ fault, reply = .failure fault →
          ((c.ask q).run s).1 = .error (.transport fault (c.request e).url.render)) ∧
    ((c.request e).isSendable = false →
      (c.ask q).run s = (.error (.transport .unsendable (c.request e).url.render), s)) := by
  rw [ask_run_of_single single]
  constructor
  · intro hsend reply state hreply
    have hexchange : s.exchange (c.request e) =
        (reply, ⟨s.server, state, s.log ++ [c.request e]⟩) := by
      rw [Session.exchange, hreply]
    rw [get_run hsend, hexchange]
    refine ⟨rfl, fun v => interpret_ok_iff, ?_, ?_, ?_⟩
    · rintro status body rfl hother
      exact interpret_of_status decoder (c.request e).url hother body
    · rintro body reason rfl hdecode
      exact interpret_of_undecodable hdecode (c.request e).url
    · rintro fault rfl
      rfl
  · intro hsend
    exact get_run_unsendable hsend decoder s

/-- An answer without content is no result, although its status is one of success. -/
theorem ask_single_run_noContent :
    ∃ c : Client, baseUrl? "http://[::1]/v4" = .ok c.base ∧
      Question.single? .releases = some (.releases, Json.list Release.decoder) ∧
      (c.request .releases).isSendable = true ∧
      (c.ask .releases).run (.start (.fixed fun _ => .answer ⟨204⟩ (Utf8.encode ['[', ']'])) ()) =
        (.error (.status 204 "204 No Content"),
          ⟨.fixed fun _ => .answer ⟨204⟩ (Utf8.encode ['[', ']']), (),
            [c.request .releases]⟩) := by
  have hsend : (Client.request (.loopback [['v', '4']]) .releases).isSendable = true := by decide
  obtain ⟨hsession, -, hstatus, -⟩ :=
    (ask_single_run (c := .loopback [['v', '4']]) (q := .releases) rfl
      (.start (.fixed fun _ => .answer ⟨204⟩ (Utf8.encode ['[', ']'])) ())).1 hsend _ _ rfl
  exact ⟨.loopback [['v', '4']], baseUrl?_loopback, rfl, hsend,
    Prod.ext (hstatus ⟨204⟩ _ rfl (by decide)) hsession⟩

/-- The record of a device with a name that is too long to ask for is never requested. -/
theorem ask_unsent :
    ∃ (c : Client) (q : Question) (e : Endpoint) (decoder : Json.Decoder q.Answer),
      baseUrl? "http://[::1]/v4" = .ok c.base ∧ Scheme.isWeb c.base.scheme = true ∧
      q.single? = some (e, decoder) ∧
      ∀ server : Server Unit,
        ((c.ask q).run (.start server ())).2.log ≠ [c.request e] := by
  have hletters : ∀ ch ∈ List.replicate 65535 'a', Url.isLetter ch = true := by
    intro ch hch
    rw [(List.mem_replicate.1 hch).2]
    rfl
  have hlong : 65534 < (List.replicate 65535 'a').length := by
    rw [List.length_replicate]
    decide
  have hunsent := isSendable_of_letters (c := .loopback [['v', '4']]) baseUrl?_loopback rfl
    hletters hlong
  have single : Question.single? (.device (String.ofList (List.replicate 65535 'a'))) =
      some (.device _, Device.decoder) := rfl
  refine ⟨.loopback [['v', '4']], _, _, _, baseUrl?_loopback, rfl, single, fun server h => ?_⟩
  have hrun := (ask_run_of_single single (.start server ())).trans
    (get_run_unsendable hunsent Device.decoder (.start server ()))
  rw [hrun] at h
  cases h

end Client

end FirmwareCatalog
