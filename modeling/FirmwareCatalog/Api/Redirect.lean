/-
**Answers that point elsewhere.**

The reply to a request need not come from where the request was sent to.  An answer can name another
place to ask, and then the request is sent on to there, at most ten times.  A site is all that can be
asked on such a way, maybe many servers.  To those who only see the replies it is one server.

What the name of a place is read as is left open: nothing that leads on, a fault, or a request for any
address whatever.

Main definitions:

* `Response` — what comes of a request where it is sent to, `Response.next?` — where that leads;
* `Site` — all that can be asked, `Wire` — a site at some point, with all that was sent to it;
* `Site.follow` — a request, sent on as long as answers point elsewhere;
* `Site.server` — a site as a server.
-/
import FirmwareCatalog.Api.Server

set_option relaxedAutoImplicit false
set_option autoImplicit false

namespace FirmwareCatalog

def Status.isRedirect (s : Status) : Bool := [301, 302, 303, 307, 308].contains s.code

/-- What comes of a request where it is sent to: an answer, which may name another place, or nothing
usable. -/
inductive Response where
  | answer (status : Status) (place : Option String) (body : List UInt8)
  | failure (fault : ExchangeFault)
  deriving DecidableEq, Repr

/-- What the place that is named in the answer to a request is read as. -/
abbrev Redirection : Type := Request → String → Option (Except ExchangeFault Request)

namespace Response

/-- Where the response to a request leads. -/
def next? (lead : Redirection) (r : Request) : Response → Option (Except ExchangeFault Request)
  | .answer status (some place) _ => if status.isRedirect then lead r place else none
  | .answer _ none _ | .failure _ => none

def reply : Response → Reply
  | .answer status _ body => .answer status body
  | .failure fault => .failure fault

end Response

/-- All that can be asked, as one machine. -/
structure Site (σ : Type) where
  respond : σ → Request → Response × σ

/-- The state of a site, and what was sent to it so far, each with the response to it. -/
structure Wire (σ : Type) where
  state : σ
  sent : List (Request × Response)

namespace Site

variable {σ : Type}

def maxHops : Nat := 10

def tooManyHops (r : Request) : ExchangeFault :=
  .other ⟨"error following redirect for url (" ++ r.url.render ++ ")", none, false, false⟩

def send (site : Site σ) (r : Request) (w : Wire σ) : Response × Wire σ :=
  let (response, state) := site.respond w.state r
  (response, ⟨state, w.sent ++ [(r, response)]⟩)

/-- A request, with a bound on how many times it is sent on. -/
def follow (site : Site σ) (lead : Redirection) : Nat → Request → Wire σ → Reply × Wire σ
  | 0, r, w =>
    let (response, w) := site.send r w
    match response.next? lead r with
    | none => (response.reply, w)
    | some _ => (.failure (tooManyHops r), w)
  | hops + 1, r, w =>
    let (response, w) := site.send r w
    match response.next? lead r with
    | none => (response.reply, w)
    | some (.error fault) => (.failure fault, w)
    | some (.ok next) => site.follow lead hops next w

/-- A site as those see it who only see the replies. -/
def server (site : Site σ) (lead : Redirection) : Server (Wire σ) :=
  ⟨fun w r => site.follow lead maxHops r w⟩

end Site

end FirmwareCatalog
