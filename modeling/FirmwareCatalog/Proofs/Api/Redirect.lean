/-
**Where answers lead.**

What is sent for one request is a trail: the request itself, and then, one after another, what the
answers lead on to, at most ten more.  So what is sent for some requests in turn are their trails in
turn.  Nothing else is sent, and if no answer leads on, it is these requests alone.

Main definitions:

* `Site.LeadsOn`, `Site.IsTrail` — what may be sent after one another in one exchange;
* `Session.Sends` — what a session with a site has sent for some requests more.

Main results:

* `Site.follow_isTrail` — one exchange is a trail;
* `Session.exists_sends` — **some requests in turn are their trails in turn**.
-/
import FirmwareCatalog.Api.Redirect
import FirmwareCatalog.Proofs.Api.Replies

set_option relaxedAutoImplicit false
set_option autoImplicit false

namespace FirmwareCatalog

variable {σ : Type} {site : Site σ} {lead : Redirection}

/-! ### One exchange -/

namespace Site

/-- The response to the first request leads on to the second one. -/
def LeadsOn (lead : Redirection) (x y : Request × Response) : Prop :=
  x.2.next? lead x.1 = some (.ok y.1)

/-- What is sent for a request: the request, and what responses lead on to from there. -/
structure IsTrail (lead : Redirection) (r : Request) (xs : List (Request × Response)) : Prop where
  head : (xs.map Prod.fst).head? = some r
  leadsOn : xs.IsChain (LeadsOn lead)
  length : xs.length ≤ maxHops + 1

theorem send_sent (site : Site σ) (r : Request) (w : Wire σ) :
    (site.send r w).2.sent = w.sent ++ [(r, (site.send r w).1)] := rfl

theorem follow_of_stays {r : Request} {w : Wire σ}
    (h : (site.send r w).1.next? lead r = none) (hops : Nat) :
    site.follow lead hops r w = ((site.send r w).1.reply, (site.send r w).2) := by
  cases hops <;> simp only [follow, h]

theorem follow_of_fault {r : Request} {w : Wire σ} {fault : ExchangeFault}
    (h : (site.send r w).1.next? lead r = some (.error fault)) (hops : Nat) :
    site.follow lead (hops + 1) r w = (.failure fault, (site.send r w).2) := by
  simp only [follow, h]

theorem follow_of_leads {r next : Request} {w : Wire σ}
    (h : (site.send r w).1.next? lead r = some (.ok next)) (hops : Nat) :
    site.follow lead (hops + 1) r w = site.follow lead hops next (site.send r w).2 := by
  simp only [follow, h]

/-- **What is sent in one exchange is a chain from the request on**, by one longer than the bound at
most. -/
theorem follow_sent (site : Site σ) (lead : Redirection) (hops : Nat) (r : Request)
    (w : Wire σ) :
    ∃ xs, (site.follow lead hops r w).2.sent = w.sent ++ (r, (site.send r w).1) :: xs ∧
      ((r, (site.send r w).1) :: xs).IsChain (LeadsOn lead) ∧ xs.length ≤ hops := by
  induction hops generalizing r w with
  | zero =>
      refine ⟨[], ?_, .singleton _, Nat.le_refl _⟩
      simp only [follow]
      split <;> rfl
  | succ hops ih =>
      match h : (site.send r w).1.next? lead r with
      | none => exact ⟨[], by rw [follow_of_stays h, send_sent], .singleton _, Nat.zero_le _⟩
      | some (.error fault) =>
          exact ⟨[], by rw [follow_of_fault h, send_sent], .singleton _, Nat.zero_le _⟩
      | some (.ok next) =>
          obtain ⟨xs, hsent, hchain, hlength⟩ := ih next (site.send r w).2
          refine ⟨(next, (site.send next (site.send r w).2).1) :: xs, ?_, .cons_cons h hchain,
            Nat.succ_le_succ hlength⟩
          rw [follow_of_leads h, hsent, send_sent, List.append_assoc, List.singleton_append]

theorem follow_isTrail (site : Site σ) (lead : Redirection) (r : Request) (w : Wire σ) :
    ∃ xs, ((site.server lead).reply w r).2.sent = w.sent ++ xs ∧ IsTrail lead r xs := by
  obtain ⟨xs, hsent, hchain, hlength⟩ := site.follow_sent lead maxHops r w
  exact ⟨_, hsent, rfl, hchain, Nat.succ_le_succ hlength⟩

theorem IsTrail.eq_of_stays {r : Request} {xs : List (Request × Response)} (h : IsTrail lead r xs)
    (hstays : ∀ x ∈ xs, x.2.next? lead x.1 = none) : xs.map Prod.fst = [r] := by
  obtain ⟨hhead, hchain, -⟩ := h
  cases hchain with
  | nil => cases hhead
  | singleton x => simpa using hhead
  | @cons_cons x y ys hleads _ =>
      rw [LeadsOn, hstays x (by simp)] at hleads
      cases hleads

theorem flatten_eq_of_stays {rs : List Request} {trails : List (List (Request × Response))}
    (h : List.Forall₂ (IsTrail lead) rs trails)
    (hstays : ∀ x ∈ trails.flatten, x.2.next? lead x.1 = none) :
    trails.flatten.map Prod.fst = rs := by
  induction h with
  | nil => rfl
  | @cons r xs rs trails htrail _ ih =>
      rw [List.flatten_cons] at hstays ⊢
      rw [List.map_append, htrail.eq_of_stays fun x hx => hstays x (List.mem_append_left _ hx),
        ih fun x hx => hstays x (List.mem_append_right _ hx), List.singleton_append]

end Site

/-! ### Requests in turn -/

namespace Session

/-- From one session with a site to a later one: the requests that were put to it are in the log, and
what was sent are the trails of these requests, in turn.  If no response leads on, these are the
requests themselves. -/
structure Sends (lead : Redirection) (s s' : Session (Wire σ)) (rs : List Request)
    (xs : List (Request × Response)) : Prop where
  log : s'.log = s.log ++ rs
  sent : s'.state.sent = s.state.sent ++ xs
  trails : ∃ trails, List.Forall₂ (Site.IsTrail lead) rs trails ∧ xs = trails.flatten
  alone : (∀ x ∈ xs, x.2.next? lead x.1 = none) → xs.map Prod.fst = rs

/-- What was sent to a site grows by the trails of the requests. -/
theorem exists_trails {s : Session (Wire σ)} (hs : s.server = site.server lead)
    (rs : List Request) :
    ∃ trails, List.Forall₂ (Site.IsTrail lead) rs trails ∧
      (s.after rs).state.sent = s.state.sent ++ trails.flatten := by
  induction rs generalizing s with
  | nil => exact ⟨[], .nil, (List.append_nil _).symm⟩
  | cons r rs ih =>
      obtain ⟨xs, hxs, htrail⟩ := site.follow_isTrail lead r s.state
      obtain ⟨trails, htrails, hsent⟩ := ih (s := (s.exchange r).2) hs
      refine ⟨xs :: trails, .cons htrail htrails, ?_⟩
      have hfirst : (s.exchange r).2.state.sent = s.state.sent ++ xs := by
        rw [← hxs, ← hs]
        rfl
      rw [after_cons, hsent, hfirst, List.flatten_cons, List.append_assoc]

/-- **Some requests in turn are their trails in turn.** -/
theorem exists_sends {s : Session (Wire σ)} (hs : s.server = site.server lead)
    (rs : List Request) : ∃ xs, s.Sends lead (s.after rs) rs xs := by
  obtain ⟨trails, htrails, hsent⟩ := exists_trails hs rs
  exact ⟨trails.flatten, log_after s rs, hsent, ⟨trails, htrails, rfl⟩,
    Site.flatten_eq_of_stays htrails⟩

end Session

end FirmwareCatalog
