/-
**Why a question to a catalog has no answer.**

An error is the failure of a step, with as many layers of context around it as there are steps that
were taken for the sake of another.  What kind of error it is depends on the innermost one alone.

An exchange can fail in ways that have no name here.  Of such a failure there is its own report: its
wording, the status if it comes from an answer, and whether it was one of time or of connecting.

Main definitions:

* `ExchangeFault` — why an exchange comes to nothing, `ExchangeReport` — what is reported of it;
* `ApiError` — errors, `ApiError.message` — their wording;
* `ApiError.root` — the innermost error;
* `Cause`, `ApiError.source?` — what an error is directly due to, `ApiError.causes` — all that it is
  due to, `ApiError.sources` — the wordings of these;
* `ApiError.status?`, `ApiError.isNotFound`, `ApiError.isTransient` — what callers ask.
-/
import FirmwareCatalog.Url.Reader

set_option relaxedAutoImplicit false
set_option autoImplicit false

namespace FirmwareCatalog

/-- What a failed exchange says of itself. -/
structure ExchangeReport where
  wording : String
  /-- The status of the answer that was taken for a failure, if one was. -/
  status? : Option Nat
  /-- There was no answer in time. -/
  isTimeout : Bool
  /-- No connection could be opened. -/
  isConnect : Bool
  deriving DecidableEq, Repr

/-- Why an exchange with a server comes to nothing. -/
inductive ExchangeFault where
  /-- No connection can be opened. -/
  | refused
  /-- The connection closes without an answer. -/
  | dropped
  /-- No answer comes in time. -/
  | hanging
  /-- The connection closes before the whole answer has come. -/
  | truncated
  /-- The address is none that requests can be sent to. -/
  | unsendable
  /-- Anything else, by what it says of itself. -/
  | other (report : ExchangeReport)
  deriving DecidableEq, Repr

namespace ExchangeFault

/-- The wording of a failed exchange about the address. -/
def message (url : String) : ExchangeFault → String
  | .refused | .dropped | .hanging => "error sending request for url (" ++ url ++ ")"
  | .truncated => "error decoding response body"
  | .unsendable => "builder error for url (" ++ url ++ ")"
  | .other report => report.wording

/-- The status of the answer that was taken for a failure, if one was. -/
def status? : ExchangeFault → Option Nat
  | .other report => report.status?
  | .refused | .dropped | .hanging | .truncated | .unsendable => none

def isTimeout : ExchangeFault → Bool
  | .hanging => true
  | .other report => report.isTimeout
  | .refused | .dropped | .truncated | .unsendable => false

def isConnect : ExchangeFault → Bool
  | .refused => true
  | .other report => report.isConnect
  | .dropped | .hanging | .truncated | .unsendable => false

/-- The exchange may succeed another time: the server could not be reached or was too slow. -/
def isTransient (fault : ExchangeFault) : Bool := fault.isTimeout || fault.isConnect

end ExchangeFault

/-- Why a question to a catalog has no answer. -/
inductive ApiError where
  | transport (fault : ExchangeFault) (url : String)
  | invalidUrl (fault : UrlFault)
  /-- Nothing can be placed below the base address. -/
  | invalidBaseUrl (url : String)
  /-- No client can be set up. -/
  | tls (reason : String)
  /-- The answer does not give what was asked for. -/
  | status (code : Nat) (text : String)
  /-- The answer cannot be understood. -/
  | undecodable (reason body : String)
  /-- Everything was answered, and what was looked for was not in it. -/
  | notFound (text : String)
  /-- A step that was taken for the sake of another one failed. -/
  | context (step : String) (source : ApiError)
  deriving DecidableEq, Repr

/-- What an error can be due to: an error inside it, a fault in an address, or a failed exchange. -/
inductive Cause where
  | error (e : ApiError)
  | address (fault : UrlFault)
  | exchange (fault : ExchangeFault) (url : String)
  deriving DecidableEq, Repr

namespace ApiError

/-- The wording of an error. -/
def message : ApiError → String
  | .transport fault url => "HTTP transport error: " ++ fault.message url
  | .invalidUrl fault => "Invalid URL: " ++ fault.message
  | .invalidBaseUrl url => "Invalid base URL: " ++ url
  | .tls reason => "TLS error: " ++ reason
  | .status _ text => "api returned status: " ++ text
  | .undecodable reason _ => "Deserialization error: " ++ reason
  | .notFound text => text
  | .context step source => step ++ ": " ++ source.message

theorem message_context (step : String) (source : ApiError) :
    (context step source).message = step ++ ": " ++ source.message := rfl

/-- The innermost error. -/
def root : ApiError → ApiError
  | .context _ source => source.root
  | e => e

/-- What an error is directly due to. -/
def source? : ApiError → Option Cause
  | .context _ source => some (.error source)
  | .invalidUrl fault => some (.address fault)
  | .transport fault url => some (.exchange fault url)
  | _ => none

/-- All that an error is due to, from the outside in.  What lies below a failed exchange is not
known. -/
def causes : ApiError → List Cause
  | .context _ source => .error source :: source.causes
  | .invalidUrl fault => [.address fault]
  | .transport fault url => [.exchange fault url]
  | _ => []

/-- The status code of the answer, if there was one. -/
def status? (e : ApiError) : Option Nat :=
  match e.root with
  | .status code _ => some code
  | .transport fault _ => fault.status?
  | _ => none

/-- What was asked for is not there. -/
def isNotFound (e : ApiError) : Bool :=
  match e.root with
  | .notFound _ => true
  | .status code _ => code == 404
  | _ => false

/-- The same question may be answered another time. -/
def isTransient (e : ApiError) : Bool :=
  match e.root with
  | .transport fault _ => fault.isTransient
  | .status code _ => code == 429 || 500 ≤ code
  | _ => false

theorem root_root (e : ApiError) : e.root.root = e.root := by
  induction e with
  | context _ _ ih => exact ih
  | _ => rfl

end ApiError

namespace Cause

/-- The wording of a cause. -/
def message : Cause → String
  | .error e => e.message
  | .address fault => fault.message
  | .exchange fault url => fault.message url

/-- All that a cause is due to in turn. -/
def causes : Cause → List Cause
  | .error e => e.causes
  | .address _ | .exchange _ _ => []

end Cause

namespace ApiError

/-- The wordings of all that an error is due to, from the outside in. -/
def sources (e : ApiError) : List String := e.causes.map Cause.message

theorem causes_eq (e : ApiError) :
    e.causes = e.source?.elim [] fun cause => cause :: cause.causes := by
  cases e <;> rfl

end ApiError

end FirmwareCatalog
