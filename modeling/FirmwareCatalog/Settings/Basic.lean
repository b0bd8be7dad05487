/-
**Settings.**

What a user may choose about the catalog in use: its address, the time limit in seconds, the name
that the client gives itself, and a file of further certificates.  The last two may be left unset.

JSON holds texts only, so a file whose path is not one cannot be written.

Main definitions:

* `ApiSettings`, `Settings` — the choices, under their heading;
* `Settings.decoder`, `Settings.toJson?` — settings as JSON.
-/
import FirmwareCatalog.Json.Basic
import FirmwareCatalog.Json.Record
import FirmwareCatalog.Transport.Basic

set_option relaxedAutoImplicit false
set_option autoImplicit false

namespace FirmwareCatalog

/-- The choices about the catalog in use. -/
structure ApiSettings where
  baseUrl : String := Transport.defaultBaseUrl
  /-- The time limit in seconds. -/
  timeout : UInt64 := Transport.defaultTimeout
  userAgent : Option String := none
  /-- A file of further certificates. -/
  certificates : Option Path := none
  deriving BEq, Repr

/-- All choices, under their one heading. -/
structure Settings where
  api : ApiSettings := {}
  deriving BEq, Repr

namespace ApiSettings

/-- The fields, in their order.  An object may leave out each of them; an array has to give the last
two. -/
def schema : Json.Schema ApiSettings where
  name := "ApiSettings"
  blank := {}
  fields :=
    [.optional "base_url" (Json.text .text) fun s a => { a with baseUrl := s },
     .optional "timeout" Json.unsigned64 fun n a => { a with timeout := n },
     .listed "user_agent" (Json.nullable (Json.text .text)) fun s a => { a with userAgent := s },
     .listed "ca_cert" (Json.nullable (Json.text .path)) fun s a =>
       { a with certificates := s.map Path.ofText }]

/-- The choices as JSON gives them. -/
def decoder : Json.Decoder ApiSettings := Json.record schema

def pathJson? : Option Path → Option Json
  | none => some .null
  | some p => p.text?.map .string

/-- The choices as a JSON value. -/
def toJson? (a : ApiSettings) : Option Json :=
  (pathJson? a.certificates).map fun path =>
    .object
      [("base_url", .string a.baseUrl), ("timeout", .nat a.timeout.toNat),
       ("user_agent", .ofOption .string a.userAgent), ("ca_cert", path)]

end ApiSettings

namespace Settings

def schema : Json.Schema Settings where
  name := "Config"
  blank := {}
  fields := [.optional "api" ApiSettings.decoder fun a s => { s with api := a }]

/-- Settings as JSON gives them. -/
def decoder : Json.Decoder Settings := Json.record schema

/-- Settings as a JSON value. -/
def toJson? (s : Settings) : Option Json := s.api.toJson?.map fun api => .object [("api", api)]

end Settings

end FirmwareCatalog
