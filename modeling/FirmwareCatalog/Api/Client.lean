/-
**Clients.**

A client knows the base address of a catalog and asks a server for what lies below it.  Every
question is a single request.  Only an answer with status 200 is looked at: its body is taken as
UTF-8, with faults replaced, and decoded as a whole.

Main definitions:

* `Client` — a base address and the name that the client gives itself;
* `Client.baseUrl?` — the base address of a text, `Client.ofText` — a client without a name;
* `Request.isSendable` — requests that can be sent;
* `Client.understand` — what an answer means, `Client.get` — one question.
-/
import FirmwareCatalog.Api.Endpoint
import FirmwareCatalog.Api.Server
import FirmwareCatalog.Json.Decode

set_option relaxedAutoImplicit false
set_option autoImplicit false

namespace FirmwareCatalog

/-! ### Addresses -/

def isOutsideRequests (c : Char) : Bool := ['"', '\x60', '\x7b', '\x7d'].contains c

/-- A request can be sent to the address: it is of the web, its host can be written in a request, and
it is not too long. -/
def Url.isRequestable (u : Url) : Bool :=
  u.isWeb && !(u.hostText?.getD []).any isOutsideRequests && u.renderChars.length ≤ 65534

def Request.isSendable (r : Request) : Bool := r.url.isRequestable

/-- A base address and the name that the client gives itself, if any. -/
structure Client where
  base : BaseUrl
  userAgent : Option String
  deriving DecidableEq

namespace Client

/-- The base address of a text. -/
def baseUrl? (text : String) : Except ApiError BaseUrl :=
  match Url.parse text with
  | .error fault => .error (.invalidUrl fault)
  | .ok u =>
    match BaseUrl.ofUrl? u with
    | none => .error (.invalidBaseUrl text)
    | some b => .ok b

/-- A client for a base address that gives itself no name. -/
def ofText (text : String) : Except ApiError Client := (baseUrl? text).map fun b => ⟨b, none⟩

def url (c : Client) (e : Endpoint) : Url := e.url c.base

def request (c : Client) (e : Endpoint) : Request := .ofUrl (c.url e) c.userAgent

/-! ### Questions -/

def previewLength : Nat := 200

/-- The error of a body that cannot be decoded. -/
def undecodable (error : Json.Error) (body : List Char) : ApiError :=
  .undecodable
    (error.message ++ " (body preview: " ++
      String.ofList (Text.quoted (body.take previewLength)) ++ ")")
    (String.ofList body)

/-- What an answer means to someone who asked for a value. -/
def understand {α : Type} (decoder : Json.Decoder α) (status : Status) (body : List UInt8) :
    Except ApiError α :=
  if status ≠ .success then .error (.status status.code status.render)
  else
    let text := Utf8.decodeLossy body
    match Json.decode decoder (String.ofList text) with
    | .ok a => .ok a
    | .error e => .error (undecodable e text)

def interpret {α : Type} (decoder : Json.Decoder α) (url : Url) : Reply → Except ApiError α
  | .answer status body => understand decoder status body
  | .failure fault => .error (.transport fault url.render)

/-- One question. -/
def get {σ α : Type} (c : Client) (decoder : Json.Decoder α) (e : Endpoint) : Call σ α :=
  ExceptT.mk fun s =>
    let r := c.request e
    if r.isSendable then
      let (reply, s) := s.exchange r
      (interpret decoder r.url reply, s)
    else (.error (.transport .unsendable r.url.render), s)

end Client

end FirmwareCatalog
