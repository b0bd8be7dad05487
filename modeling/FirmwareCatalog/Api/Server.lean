/-
**Servers.**

A server is any machine with a state: it takes a request and gives a reply, and what it replies may
depend on all that it was asked before.  A session is a server in some state together with the
requests put to it so far, in their order.

A reply is what comes of a request in the end.  If an answer on the way to it points elsewhere, the
request is sent on to there, maybe to another server.  That is a part of the exchange which a session
does not show.

Main definitions:

* `Request`, `Reply` — what is asked and what comes of it;
* `Server` — machines that reply, `Session` — one of them at some point;
* `Session.exchange` — one request and its reply;
* `Call` — what asks a server any number of times.
-/
import FirmwareCatalog.Api.Error
import FirmwareCatalog.Api.Status
import FirmwareCatalog.Url.Login

set_option relaxedAutoImplicit false
set_option autoImplicit false

namespace FirmwareCatalog

/-- What is asked: an address, and beside it the login that was taken out of it and the name that the
client gives itself, if any. -/
structure Request where
  url : Url
  login : Option Login
  userAgent : Option String
  deriving DecidableEq

namespace Request

def ofUrl (u : Url) (userAgent : Option String) : Request :=
  match u.login? with
  | none => ⟨u, none, userAgent⟩
  | some login => ⟨u.withoutLogin, some login, userAgent⟩

end Request

/-- What comes of a request: the status of the last answer, with the bytes of its body, or nothing
usable. -/
inductive Reply where
  | answer (status : Status) (body : List UInt8)
  | failure (fault : ExchangeFault)
  deriving DecidableEq, Repr

/-- A machine that replies to requests. -/
structure Server (σ : Type) where
  reply : σ → Request → Reply × σ

/-- A server in a state, and the requests put to it so far, without those that answers lead on to. -/
structure Session (σ : Type) where
  server : Server σ
  state : σ
  log : List Request

namespace Session

def start {σ : Type} (server : Server σ) (state : σ) : Session σ := ⟨server, state, []⟩

/-- One request and its reply. -/
def exchange {σ : Type} (s : Session σ) (r : Request) : Reply × Session σ :=
  let (reply, state) := s.server.reply s.state r
  (reply, ⟨s.server, state, s.log ++ [r]⟩)

end Session

/-- What asks a server any number of times and then has a result or an error; the session is gone on
with in either case. -/
abbrev Call (σ α : Type) : Type := ExceptT ApiError (StateM (Session σ)) α

end FirmwareCatalog
