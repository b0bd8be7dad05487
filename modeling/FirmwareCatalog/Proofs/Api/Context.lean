/-
**Errors in context.**

The error of a step that is taken for the sake of another one is put into a context, and if that
step was itself taken for the sake of a third one, into one context more.  Whoever has to decide
what to do about an error looks through all these layers: which status there was, whether what was
asked for is missing, and whether another try is worth it, are questions to the innermost error
alone.  What the layers change is the wording, where each puts its own text in front, and what the
error is due to, where each adds the error inside it.

Every error is an innermost error in layers of context, and it is so in one way only.  So what holds
for errors in layers holds for all errors, although those of the questions to a catalog never have
more than one layer.

Main definitions:

* `ApiError.IsRoot` — errors without a context;
* `ApiError.inSteps` — an error in the contexts of some steps, `ApiError.steps` — the steps whose
  contexts an error has, `ApiError.layers` — the errors on the way in;
* `Call.inSteps` — a call that is made for the sake of some steps.

Main results:

* `ApiError.inSteps_steps`, `ApiError.inSteps_inj` — every error is an innermost one in layers, in
  one way only;
* `ApiError.status?_eq_some_iff`, `ApiError.isNotFound_iff`, `ApiError.isTransient_iff` — what
  callers learn is decided by the innermost error;
* `ApiError.not_isNotFound_and_isTransient` — what is missing is never worth another try;
* `ApiError.message_inSteps`, `ApiError.causes_inSteps` — what the layers do change;
* `ApiError.inSteps_transparent` — **layers of context change nothing about the kind of an error**,
  however many there are;
* `Call.run_inSteps_error_iff`, `Client.exists_inSteps_of_ask` — where the layers come from;
* `Call.kind_of_run_inSteps` — callers learn the same whatever steps a call is made for.
-/
import FirmwareCatalog.Proofs.Api.Failure
import Mathlib.Data.List.Induction

set_option relaxedAutoImplicit false
set_option autoImplicit false

namespace FirmwareCatalog

variable {σ α : Type}

namespace ApiError

/-! ### Innermost errors -/

/-- The error has no context. -/
def IsRoot (e : ApiError) : Prop := ∀ step source, e ≠ .context step source

theorem isRoot_root (e : ApiError) : e.root.IsRoot := by
  induction e with
  | context step source ih => exact ih
  | _ =>
      intro step source h
      cases h

theorem IsRoot.root_eq {e : ApiError} (h : e.IsRoot) : e.root = e := by
  cases e with
  | context step source => exact absurd rfl (h step source)
  | _ => rfl

theorem isRoot_iff {e : ApiError} : e.IsRoot ↔ e.root = e := by
  constructor
  · intro h
    exact h.root_eq
  · intro h
    rw [← h]
    exact e.isRoot_root

instance (e : ApiError) : Decidable e.IsRoot := decidable_of_iff (e.root = e) isRoot_iff.symm

/-! ### What callers learn -/

theorem kind_eq_of_root_eq {e e' : ApiError} (h : e.root = e'.root) :
    e.status? = e'.status? ∧ e.isNotFound = e'.isNotFound ∧ e.isTransient = e'.isTransient := by
  refine ⟨?_, ?_, ?_⟩
  · rw [status?, status?, h]
  · rw [isNotFound, isNotFound, h]
  · rw [isTransient, isTransient, h]

/-- There is a status exactly if the innermost error has it, by itself or in the report of a failed
exchange. -/
theorem status?_eq_some_iff {e : ApiError} {code : Nat} :
    e.status? = some code ↔
      (∃ text, e.root = .status code text) ∨
        ∃ fault url, e.root = .transport fault url ∧ fault.status? = some code := by
  rw [status?]
  cases e.root <;> simp

/-- What was asked for is missing exactly if a search did not find it, or if the status is 404. -/
theorem isNotFound_iff {e : ApiError} :
    e.isNotFound = true ↔
      (∃ text, e.root = .notFound text) ∨ ∃ text, e.root = .status 404 text := by
  rw [isNotFound]
  cases e.root <;> simp

/-- Another try is worth it exactly if the server was not reached or too slow, or if the status says
that there were too many requests or that the server is at fault. -/
theorem isTransient_iff {e : ApiError} :
    e.isTransient = true ↔
      (∃ fault url, e.root = .transport fault url ∧
        (fault.isTimeout = true ∨ fault.isConnect = true)) ∨
        ∃ code text, e.root = .status code text ∧ (code = 429 ∨ 500 ≤ code) := by
  rw [isTransient]
  cases e.root <;> simp [ExchangeFault.isTransient]

/-- **What is missing is never worth another try.** -/
theorem not_isNotFound_and_isTransient (e : ApiError) :
    ¬(e.isNotFound = true ∧ e.isTransient = true) := by
  rintro ⟨hmissing, hagain⟩
  rcases isNotFound_iff.1 hmissing with ⟨text, hroot⟩ | ⟨text, hroot⟩
  · -- a search that found nothing is neither an exchange nor a status
    rcases isTransient_iff.1 hagain with ⟨fault, url, hother, -⟩ | ⟨code, other, hother, -⟩
    · cases hroot.symm.trans hother
    · cases hroot.symm.trans hother
  · rcases isTransient_iff.1 hagain with ⟨fault, url, hother, -⟩ | ⟨code, other, hother, hcode⟩
    · cases hroot.symm.trans hother
    · -- the status cannot be 404 and one of the others
      cases hroot.symm.trans hother
      omega

/-! ### Layers -/

/-- The error in the contexts of some steps, the innermost one first. -/
def inSteps (e : ApiError) (steps : List String) : ApiError :=
  steps.foldl (fun inner step => .context step inner) e

@[simp] theorem inSteps_nil (e : ApiError) : e.inSteps [] = e := rfl

@[simp] theorem inSteps_concat (e : ApiError) (steps : List String) (step : String) :
    e.inSteps (steps ++ [step]) = .context step (e.inSteps steps) := by
  simp [inSteps]

/-- The steps whose contexts an error has, the innermost one first. -/
def steps : ApiError → List String
  | .context step source => source.steps ++ [step]
  | _ => []

theorem IsRoot.steps_eq {e : ApiError} (h : e.IsRoot) : e.steps = [] := by
  cases e with
  | context step source => exact absurd rfl (h step source)
  | _ => rfl

/-- **Every error is its innermost error in the contexts of its steps.** -/
theorem inSteps_steps (e : ApiError) : e.root.inSteps e.steps = e := by
  induction e with
  | context step source ih => rw [root, steps, inSteps_concat, ih]
  | _ => rfl

theorem steps_inSteps (e : ApiError) (steps : List String) :
    (e.inSteps steps).steps = e.steps ++ steps := by
  -- the last step is the outermost one, so steps are taken off at the end
  induction steps using List.reverseRecOn with
  | nil => simp
  | append_singleton steps step ih =>
      rw [inSteps_concat, ApiError.steps, ih, List.append_assoc]

theorem root_inSteps (e : ApiError) (steps : List String) : (e.inSteps steps).root = e.root := by
  induction steps using List.reverseRecOn with
  | nil => rfl
  | append_singleton steps step ih => rw [inSteps_concat, root, ih]

/-- An innermost error and the steps around it can be told from the whole. -/
theorem inSteps_inj {r r' : ApiError} (hr : r.IsRoot) (hr' : r'.IsRoot)
    {steps steps' : List String} :
    r.inSteps steps = r'.inSteps steps' ↔ r = r' ∧ steps = steps' := by
  constructor
  · intro h
    have hroot := congrArg root h
    have hsteps := congrArg ApiError.steps h
    rw [root_inSteps, root_inSteps, hr.root_eq, hr'.root_eq] at hroot
    rw [steps_inSteps, steps_inSteps, hr.steps_eq, hr'.steps_eq] at hsteps
    exact ⟨hroot, hsteps⟩
  · rintro ⟨rfl, rfl⟩
    rfl

/-- The wording of an error in layers: the last step first, the innermost error last. -/
theorem message_inSteps (e : ApiError) (steps : List String) :
    (e.inSteps steps).message = ": ".intercalate (steps.reverse ++ [e.message]) := by
  induction steps using List.reverseRecOn with
  | nil => simp
  | append_singleton steps step ih =>
      have hrest : steps.reverse ++ [e.message] ≠ [] := by simp
      calc (e.inSteps (steps ++ [step])).message
          = step ++ ": " ++ (e.inSteps steps).message := by
            rw [inSteps_concat, message_context]
        _ = step ++ ": " ++ ": ".intercalate (steps.reverse ++ [e.message]) :=
            congrArg (step ++ ": " ++ ·) ih
        _ = ": ".intercalate ((steps ++ [step]).reverse ++ [e.message]) := by
            rw [List.reverse_concat, List.cons_append, String.intercalate_cons_of_ne_nil hrest]

/-! ### The errors inside -/

/-- The errors inside an error in the contexts of some steps, from the outside in: each one has one
context less, and the last one is the error itself. -/
def layers (e : ApiError) (steps : List String) : List ApiError :=
  (List.range steps.length).reverse.map fun n => e.inSteps (steps.take n)

/-- Around one more context, what was the whole is the first error inside. -/
theorem layers_concat (e : ApiError) (steps : List String) (step : String) :
    e.layers (steps ++ [step]) = e.inSteps steps :: e.layers steps := by
  have hinner : ∀ n ∈ (List.range steps.length).reverse,
      e.inSteps ((steps ++ [step]).take n) = e.inSteps (steps.take n) := by
    intro n hn
    have hle : n ≤ steps.length := by
      simp only [List.mem_reverse, List.mem_range] at hn
      omega
    rw [List.take_append_of_le_length hle]
  have houter : e.inSteps ((steps ++ [step]).take steps.length) = e.inSteps steps := by
    rw [List.take_left]
  rw [layers, List.length_append, List.length_singleton, List.range_succ, List.reverse_concat,
    List.map_cons, houter, List.map_congr_left hinner, layers]

/-- An error in layers is due to the errors inside it, and to what the innermost one is due to. -/
theorem causes_inSteps (e : ApiError) (steps : List String) :
    (e.inSteps steps).causes = (e.layers steps).map .error ++ e.causes := by
  induction steps using List.reverseRecOn with
  | nil => rfl
  | append_singleton steps step ih =>
      rw [inSteps_concat, causes, ih, layers_concat, List.map_cons, List.cons_append]

theorem IsRoot.source?_eq_none {r : ApiError} (h : r.IsRoot)
    (exchanged : ∀ fault url, r ≠ .transport fault url)
    (addressed : ∀ fault, r ≠ .invalidUrl fault) : r.source? = none := by
  cases r with
  | transport fault url => exact absurd rfl (exchanged fault url)
  | invalidUrl fault => exact absurd rfl (addressed fault)
  | context step source => exact absurd rfl (h step source)
  | _ => rfl

/-! ### Nothing is hidden by a context -/

/-- **Layers of context change nothing about the kind of an error.**  In any number of layers, an
error without a context is still the innermost one, and all who ask learn the same as without them.
The wording has the texts of the layers in front, the last one first.  Unless the innermost error is
one of an exchange, the whole is due to the errors inside it, down to the innermost one, and after
them to the fault of an address if the innermost error is one of an address, and else to nothing
more.  The innermost error never has a context, so that nothing else is to be found inside it; and
what is missing is never worth another try. -/
theorem inSteps_transparent :
    (∀ (r : ApiError) (steps : List String), r.IsRoot →
      (r.inSteps steps).root = r ∧
      (r.inSteps steps).status? = r.status? ∧
      (r.inSteps steps).isNotFound = r.isNotFound ∧
      (r.inSteps steps).isTransient = r.isTransient ∧
      (r.inSteps steps).message = ": ".intercalate (steps.reverse ++ [r.message]) ∧
      ((∀ fault url, r ≠ .transport fault url) →
        (∀ fault, r = .invalidUrl fault →
          (r.inSteps steps).causes = (r.layers steps).map .error ++ [.address fault]) ∧
        ((∀ fault, r ≠ .invalidUrl fault) →
          (r.inSteps steps).causes = (r.layers steps).map .error))) ∧
    ∀ e : ApiError, e.root.root = e.root ∧ e.root.IsRoot ∧
      ¬(e.isNotFound = true ∧ e.isTransient = true) := by
  constructor
  · intro r steps hr
    obtain ⟨hstatus, hmissing, hagain⟩ := kind_eq_of_root_eq (root_inSteps r steps)
    refine ⟨?_, hstatus, hmissing, hagain, r.message_inSteps steps, ?_⟩
    · rw [root_inSteps, hr.root_eq]
    · intro hexchange
      rw [causes_inSteps]
      constructor
      · rintro fault rfl
        rfl
      · intro haddress
        have hnothing : r.causes = [] := by
          rw [causes_eq, hr.source?_eq_none hexchange haddress]
          rfl
        rw [hnothing, List.append_nil]
  · intro e
    exact ⟨e.root_root, e.isRoot_root, e.not_isNotFound_and_isTransient⟩

/-- The fault of an address, found two steps further in. -/
theorem inSteps_transparent_address :
    (ApiError.invalidUrl .emptyHost).IsRoot ∧
    ∃ e : ApiError, e = .context "outer" (.context "inner" (.invalidUrl .emptyHost)) ∧
      e.root = .invalidUrl .emptyHost ∧ e.status? = none ∧
      e.isNotFound = false ∧ e.isTransient = false ∧
      e.message = "outer: inner: Invalid URL: empty host" ∧
      e.causes = [.error (.context "inner" (.invalidUrl .emptyHost)),
        .error (.invalidUrl .emptyHost), .address .emptyHost] := by
  have hr : (ApiError.invalidUrl .emptyHost).IsRoot := by decide
  obtain ⟨hroot, hstatus, hmissing, hagain, hmessage, hcauses⟩ :=
    inSteps_transparent.1 (.invalidUrl .emptyHost) ["inner", "outer"] hr
  have hexchange : ∀ fault url, ApiError.invalidUrl .emptyHost ≠ .transport fault url := by
    intro fault url h
    cases h
  refine ⟨hr, _, rfl, hroot, hstatus, hmissing, hagain, hmessage, ?_⟩
  exact (hcauses hexchange).1 _ rfl

end ApiError

/-! ### Where layers come from -/

namespace Call

/-- A call that is made for the sake of some steps, the innermost one first. -/
def inSteps (call : Call σ α) (steps : List String) : Call σ α :=
  steps.foldl (fun inner step => Call.inStep step inner) call

theorem inSteps_concat (call : Call σ α) (steps : List String) (step : String) :
    inSteps call (steps ++ [step]) = Call.inStep step (inSteps call steps) := by
  simp [inSteps]

/-- **Steps around a call put its error into their contexts**, and do nothing else. -/
theorem run_inSteps_error_iff {call : Call σ α} {steps : List String} {s s' : Session σ}
    {e : ApiError} :
    (inSteps call steps).run s = (.error e, s') ↔
      ∃ inner, call.run s = (.error inner, s') ∧ e = inner.inSteps steps := by
  induction steps using List.reverseRecOn generalizing e with
  | nil => simp [inSteps]
  | append_singleton steps step ih =>
      rw [inSteps_concat, run_inStep_error_iff]
      constructor
      · rintro ⟨outer, rfl, h⟩
        obtain ⟨inner, hcall, rfl⟩ := ih.1 h
        exact ⟨inner, hcall, (inner.inSteps_concat steps step).symm⟩
      · rintro ⟨inner, hcall, rfl⟩
        exact ⟨inner.inSteps steps, inner.inSteps_concat steps step, ih.2 ⟨inner, hcall, rfl⟩⟩

/-- Whoever asks about the error of a call learns the same whatever steps the call is made for. -/
theorem kind_of_run_inSteps {call : Call σ α} {steps : List String} {s s' : Session σ}
    {e : ApiError} (h : (inSteps call steps).run s = (.error e, s')) :
    ∃ inner, call.run s = (.error inner, s') ∧ e.status? = inner.status? ∧
      e.isNotFound = inner.isNotFound ∧ e.isTransient = inner.isTransient := by
  obtain ⟨inner, hcall, rfl⟩ := run_inSteps_error_iff.1 h
  exact ⟨inner, hcall, ApiError.kind_eq_of_root_eq (inner.root_inSteps steps)⟩

end Call

namespace Client

/-- **The error of a question has at most one layer.**  Inside it is the error of a single request,
or that a search did not find anything. -/
theorem exists_inSteps_of_ask {c : Client} {q : Question} {s s' : Session σ} {e : ApiError}
    (h : (c.ask q).run s = (.error e, s')) :
    ∃ (r : ApiError) (steps : List String), e = r.inSteps steps ∧ steps.length ≤ 1 ∧
      (r.IsDirect ∨ ∃ text, r = .notFound text) := by
  have hshape : q.MayFailWith e := (fails_of_ask h).mayFailWith
  cases q with
  | buildOfVersion version identifier =>
      rcases hshape with hdirect | ⟨text, rfl⟩
      · exact ⟨e, [], rfl, Nat.zero_le 1, Or.inl hdirect⟩
      · exact ⟨_, [], rfl, Nat.zero_le 1, Or.inr ⟨text, rfl⟩⟩
  | versionOfBuild build =>
      rcases hshape with ⟨inner, hdirect, rfl⟩ | ⟨text, rfl⟩
      · exact ⟨inner, [_], rfl, Nat.le_refl 1, Or.inl hdirect⟩
      · exact ⟨_, [], rfl, Nat.zero_le 1, Or.inr ⟨text, rfl⟩⟩
  | sharedFirmwares version =>
      obtain ⟨inner, hdirect, rfl | rfl⟩ := hshape
      · exact ⟨inner, [_], rfl, Nat.le_refl 1, Or.inl hdirect⟩
      · exact ⟨inner, [_], rfl, Nat.le_refl 1, Or.inl hdirect⟩
  | successorFirmware version =>
      rcases hshape with ⟨inner, hdirect, rfl⟩ | ⟨text, rfl⟩
      · exact ⟨inner, [_], rfl, Nat.le_refl 1, Or.inl hdirect⟩
      · exact ⟨_, [], rfl, Nat.zero_le 1, Or.inr ⟨text, rfl⟩⟩
  | _ => exact ⟨e, [], rfl, Nat.zero_le 1, Or.inl hshape⟩

end Client

end FirmwareCatalog
