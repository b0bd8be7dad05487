/-
**What a client learns from replies.**

A client learns about a server from its replies alone.  If two servers give the same replies to the
same requests, however many came before, then a question has the same result with both, and the same
requests are sent for it, each of them to an endpoint below the base address.  In particular a server
that answers each request in one way, whatever it was asked before, gives the same result whenever a
question is put to it.

All questions are made of single requests, one after another, so the proof follows their making: what
is true of a single request, and stays true when something follows or is made of the result, is true of
all questions.

Main definitions:

* `Session.after` — a session some requests later;
* `Session.Alike` — sessions whose servers reply alike;
* `Session.IsSteady` — sessions whose server replies to each request in one way, `Server.fixed` — such
  a server;
* `Client.Agrees` — what has the same result and sends the same requests in sessions that are alike.

Main results:

* `Client.agrees_get`, `Client.Agrees.run_bind` — a single request, and what follows it;
* `Client.agrees_ask` — **questions depend on the replies alone**;
* `Session.IsSteady.ask_eq` — **a steady server gives the same result whenever it is asked**;
* `Client.ask_after` — a question sends requests to endpoints, and does nothing else to a session.
-/
import FirmwareCatalog.Proofs.Api.Failure

set_option relaxedAutoImplicit false
set_option autoImplicit false

namespace FirmwareCatalog

variable {σ τ α β : Type}

/-! ### Sessions after some requests -/

/-- A server that has one reply to each request. -/
def Server.fixed (reply : Request → Reply) : Server Unit := ⟨fun _ r => (reply r, ())⟩

namespace Session

/-- The session after some requests, one after the other. -/
def after (s : Session σ) (rs : List Request) : Session σ :=
  rs.foldl (fun s r => (s.exchange r).2) s

@[simp] theorem after_nil (s : Session σ) : s.after [] = s := rfl

theorem after_cons (s : Session σ) (r : Request) (rs : List Request) :
    s.after (r :: rs) = (s.exchange r).2.after rs := rfl

theorem after_append (s : Session σ) (rs rs' : List Request) :
    s.after (rs ++ rs') = (s.after rs).after rs' := List.foldl_append

theorem log_after (s : Session σ) (rs : List Request) : (s.after rs).log = s.log ++ rs := by
  induction rs generalizing s with
  | nil => rw [after_nil, List.append_nil]
  | cons r rs ih => rw [after_cons, ih, exchange, List.append_assoc, List.singleton_append]

theorem server_after (s : Session σ) (rs : List Request) : (s.after rs).server = s.server := by
  induction rs generalizing s with
  | nil => rfl
  | cons r rs ih => rw [after_cons, ih, exchange]

/-- The two servers give the same replies to the same requests. -/
def Alike (s : Session σ) (t : Session τ) : Prop :=
  ∀ rs r, ((s.after rs).exchange r).1 = ((t.after rs).exchange r).1

/-- The server gives the same reply to a request, whatever it is asked before. -/
def IsSteady (s : Session σ) : Prop := ∀ rs r, ((s.after rs).exchange r).1 = (s.exchange r).1

theorem Alike.refl (s : Session σ) : s.Alike s := by
  intro rs r
  rfl

/-- Sessions that are alike stay so. -/
theorem Alike.after {s : Session σ} {t : Session τ} (h : s.Alike t) (rs : List Request) :
    (s.after rs).Alike (t.after rs) := by
  intro rs' r
  rw [← after_append, ← after_append]
  exact h (rs ++ rs') r

theorem IsSteady.alike_after {s : Session σ} (h : s.IsSteady) (rs : List Request) :
    (s.after rs).Alike s := by
  intro rs' r
  rw [← after_append, h (rs ++ rs') r, h rs' r]

theorem isSteady_fixed (reply : Request → Reply) : (start (.fixed reply) ()).IsSteady := by
  intro rs r
  rw [exchange, server_after]
  rfl

end Session

/-! ### What depends on replies alone -/

theorem step_map (f : α → β) (step : StateM σ α) (s : σ) :
    (f <$> step) s = (f (step s).1, (step s).2) := rfl

theorem step_bind (step : StateM σ α) (next : α → StateM σ β) (s : σ) :
    (step >>= next) s = next (step s).1 (step s).2 := rfl

namespace Client

/-- In sessions that are alike the two have the same result, and they send the same requests, each of
them to an endpoint. -/
def Agrees (c : Client) (x : StateM (Session σ) α) (y : StateM (Session τ) α) : Prop :=
  ∀ s t, s.Alike t → ∃ es, (x s).2 = s.after (c.requests es) ∧ (y t).2 = t.after (c.requests es) ∧
    (x s).1 = (y t).1

theorem agrees_pure (c : Client) (a : α) :
    c.Agrees (pure a : StateM (Session σ) α) (pure a : StateM (Session τ) α) := by
  intro s t _
  exact ⟨[], rfl, rfl, rfl⟩

theorem get_after (c : Client) (decoder : Json.Decoder α) (e : Endpoint) (s : Session σ) :
    ((c.get decoder e).run s).2 = s.after (c.requests [e]) := by
  cases hsend : (c.request e).isSendable with
  | true =>
      rw [get_run hsend, requests, List.map_singleton, List.filter_cons_of_pos hsend]
      rfl
  | false =>
      have hnot : ¬ (c.request e).isSendable = true := Bool.eq_false_iff.1 hsend
      rw [get_run_unsendable hsend, requests, List.map_singleton, List.filter_cons_of_neg hnot]
      rfl

/-- **A single request depends on its reply alone.** -/
theorem agrees_get (c : Client) (decoder : Json.Decoder α) (e : Endpoint) :
    c.Agrees (c.get decoder e : Call σ α).run (c.get decoder e : Call τ α).run := by
  intro s t hst
  refine ⟨[e], c.get_after decoder e s, c.get_after decoder e t, ?_⟩
  cases hsend : (c.request e).isSendable with
  | true =>
      rw [get_run hsend, get_run hsend]
      exact congrArg (interpret decoder (c.request e).url) (hst [] _)
  | false => rw [get_run_unsendable hsend, get_run_unsendable hsend]

theorem Agrees.map {c : Client} {x : StateM (Session σ) α} {y : StateM (Session τ) α}
    (h : c.Agrees x y) (f : α → β) : c.Agrees (f <$> x) (f <$> y) := by
  intro s t hst
  obtain ⟨es, hs, ht, heq⟩ := h s t hst
  exact ⟨es, hs, ht, congrArg f heq⟩

/-- **One after another**: the second part finds sessions that are alike, since the first part has
sent the same requests in both. -/
theorem Agrees.bind {c : Client} {x : StateM (Session σ) α} {y : StateM (Session τ) α}
    {f : α → StateM (Session σ) β} {g : α → StateM (Session τ) β} (h : c.Agrees x y)
    (hnext : ∀ a, c.Agrees (f a) (g a)) : c.Agrees (x >>= f) (y >>= g) := by
  intro s t hst
  obtain ⟨es, hs, ht, heq⟩ := h s t hst
  -- Both go on with one result, in sessions that have been sent the same requests.
  obtain ⟨es', hs', ht', heq'⟩ := hnext (x s).1 _ _ (hst.after (c.requests es))
  refine ⟨es ++ es', ?_, ?_, ?_⟩
  · rw [step_bind, requests_append, Session.after_append, ← hs', hs]
  · rw [step_bind, requests_append, Session.after_append, ← ht', ht, heq]
  · rw [step_bind, step_bind, hs, ht, heq', heq]

/-- A call after another one. -/
theorem Agrees.run_bind {c : Client} {x : Call σ α} {y : Call τ α} {f : α → Call σ β}
    {g : α → Call τ β} (h : c.Agrees x.run y.run) (hnext : ∀ a, c.Agrees (f a).run (g a).run) :
    c.Agrees (x >>= f).run (y >>= g).run := by
  rw [ExceptT.run_bind, ExceptT.run_bind]
  refine h.bind fun result => ?_
  cases result with
  | ok a => exact hnext a
  | error e => exact agrees_pure c _

/-- A context is put around the result. -/
theorem inStep_run_eq_map (step : String) (call : Call σ α) :
    (Call.inStep step call).run = Except.mapError (.context step) <$> call.run := by
  funext s
  rw [step_map]
  rcases hrun : call.run s with ⟨result, s'⟩
  cases result with
  | ok a =>
      rw [Call.run_inStep_ok hrun]
      rfl
  | error e =>
      rw [Call.run_inStep_error hrun]
      rfl

theorem Agrees.inStep {c : Client} {x : Call σ α} {y : Call τ α} (h : c.Agrees x.run y.run)
    (step : String) : c.Agrees (Call.inStep step x).run (Call.inStep step y).run := by
  rw [inStep_run_eq_map, inStep_run_eq_map]
  exact h.map _

theorem Agrees.lift {c : Client} {x : StateM (Session σ) α} {y : StateM (Session τ) α}
    (h : c.Agrees x y) :
    c.Agrees (ExceptT.lift x : Call σ α).run (ExceptT.lift y : Call τ α).run := h.map Except.ok

theorem agrees_first (c : Client) (items : List α) (fits : α → Bool) (missing : String) :
    c.Agrees (Call.first items fits missing : Call σ α).run
      (Call.first items fits missing : Call τ α).run := by
  rw [Call.first, Call.first]
  cases items.find? fits with
  | none => exact agrees_pure c _
  | some a => exact agrees_pure c _

/-! ### The search for a build -/

def stepOf (build : String) : Except ApiError Device → ScanStep
  | .ok d => ((d.firmwareByBuild? build).map fun fw => ScanStep.found fw.version).getD .missing
  | .error e => .skipped e

/-- A device is asked for its record only. -/
theorem scanDevice_eq_map (c : Client) (identifier build : String) :
    (c.scanDevice identifier build : StateM (Session σ) ScanStep) =
      stepOf build <$> (c.device identifier).run := by
  funext s
  rw [step_map]
  rcases hrun : (c.device identifier).run s with ⟨result, s'⟩
  cases result with
  | ok d =>
      simp only [scanDevice, hrun, stepOf]
      cases d.firmwareByBuild? build with
      | none => rfl
      | some fw => rfl
  | error e => simp only [scanDevice, hrun, stepOf]

/-- The search goes on with the devices that are left, unless a version has been found. -/
theorem scanDevices_cons (c : Client) (build : String) (d : Device) (ds : List Device) :
    (c.scanDevices build (d :: ds) : StateM (Session σ) (Option String)) =
      c.scanDevice d.identifier build >>= fun step =>
        step.version?.elim (c.scanDevices build ds) fun version => pure (some version) := by
  funext s
  rw [step_bind]
  rcases hstep : c.scanDevice d.identifier build s with ⟨step, s'⟩
  cases step with
  | found version =>
      simp only [scanDevices, hstep]
      rfl
  | missing =>
      simp only [scanDevices, hstep]
      rfl
  | skipped e =>
      simp only [scanDevices, hstep]
      rfl

theorem agrees_scanDevice (c : Client) (identifier build : String) :
    c.Agrees (c.scanDevice identifier build : StateM (Session σ) ScanStep)
      (c.scanDevice identifier build : StateM (Session τ) ScanStep) := by
  rw [scanDevice_eq_map, scanDevice_eq_map]
  exact (agrees_get c _ _).map _

/-- The search depends on the replies alone. -/
theorem agrees_scanDevices (c : Client) (build : String) (ds : List Device) :
    c.Agrees (c.scanDevices build ds : StateM (Session σ) (Option String))
      (c.scanDevices build ds : StateM (Session τ) (Option String)) := by
  induction ds with
  | nil => exact agrees_pure c none
  | cons d ds ih =>
      rw [scanDevices_cons, scanDevices_cons]
      refine (agrees_scanDevice c _ _).bind fun step => ?_
      cases step.version? with
      | none => exact ih
      | some version => exact agrees_pure c _

/-! ### All questions -/

theorem history_after (c : Client) (identifier : String) (s : Session σ) :
    ((c.history identifier).run s).2 = s.after (c.requests [.device identifier]) := by
  rw [← c.get_after Device.decoder (.device identifier) s]
  rcases hrun : (c.device identifier).run s with ⟨result, s'⟩
  have hget : (c.get Device.decoder (.device identifier)).run s = (result, s') := hrun
  cases result with
  | ok d =>
      rw [history, Call.run_bind_ok hrun, hget]
      rfl
  | error e => rw [history, Call.run_bind_error hrun, hget]

theorem agrees_history (c : Client) (identifier : String) :
    c.Agrees (c.history identifier : Call σ (List Firmware)).run
      (c.history identifier : Call τ (List Firmware)).run :=
  (agrees_get c _ _).run_bind fun _ => agrees_pure c _

/-- **Questions depend on the replies alone.** -/
theorem agrees_ask (c : Client) (q : Question) :
    c.Agrees (c.ask q : Call σ q.Answer).run (c.ask q : Call τ q.Answer).run := by
  cases q with
  | allDevices => exact agrees_get c _ _
  | device identifier => exact agrees_get c _ _
  | history identifier => exact agrees_history c identifier
  | firmwares version => exact agrees_get c _ _
  | firmware identifier build => exact agrees_get c _ _
  | releases => exact agrees_get c _ _
  | buildOfVersion version identifier =>
      exact (agrees_get c _ _).run_bind fun fws =>
        (agrees_first c fws _ _).run_bind fun _ => agrees_pure c _
  | versionOfBuild build =>
      -- The names that the search asks for are those of one catalog: it is the same in both.
      refine ((agrees_get c _ _).inStep _).run_bind fun ds => ?_
      refine (agrees_scanDevices c build ds.reverse).lift.run_bind fun result => ?_
      cases result with
      | none => exact agrees_pure c _
      | some version => exact agrees_pure c _
  | sharedFirmwares version =>
      exact ((agrees_history c _).inStep _).run_bind fun _ =>
        ((agrees_history c _).inStep _).run_bind fun _ =>
          agrees_pure c _
  | successorFirmware version =>
      exact ((agrees_history c _).inStep _).run_bind fun third => agrees_first c third _ _

/-- **A question sends requests to endpoints**, and does nothing else to a session. -/
theorem ask_after (c : Client) (q : Question) (s : Session σ) :
    ∃ es, ((c.ask q).run s).2 = s.after (c.requests es) := by
  obtain ⟨es, hs, -⟩ := c.agrees_ask q s s (.refl s)
  exact ⟨es, hs⟩

theorem scanDevice_after (c : Client) (identifier build : String) (s : Session σ) :
    ∃ es, (c.scanDevice identifier build s).2 = s.after (c.requests es) := by
  obtain ⟨es, hs, -⟩ := c.agrees_scanDevice identifier build s s (.refl s)
  exact ⟨es, hs⟩

end Client

namespace Session

/-- **In sessions that are alike a question has the same result.** -/
theorem Alike.ask_eq {s : Session σ} {t : Session τ} (h : s.Alike t) (c : Client) (q : Question) :
    ((c.ask q).run s).1 = ((c.ask q).run t).1 := by
  obtain ⟨es, -, -, heq⟩ := c.agrees_ask q s t h
  exact heq

/-- **A steady server gives the same result whenever it is asked.** -/
theorem IsSteady.ask_eq {s : Session σ} (h : s.IsSteady) (c : Client) (q : Question)
    (rs : List Request) : ((c.ask q).run (s.after rs)).1 = ((c.ask q).run s).1 :=
  (h.alike_after rs).ask_eq c q

end Session

end FirmwareCatalog
