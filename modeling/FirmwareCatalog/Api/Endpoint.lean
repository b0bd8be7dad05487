/-
**What a catalog can be asked for.**

Every request names one of five things below the base address of the catalog: a fixed word, and for
some of them one further segment for each argument.

Main definitions:

* `Endpoint` — what can be asked for;
* `Endpoint.segments` — where it lies below the base address;
* `Endpoint.url` — its address.
-/
import FirmwareCatalog.Url.Base

set_option relaxedAutoImplicit false
set_option autoImplicit false

namespace FirmwareCatalog

/-- What a catalog can be asked for. -/
inductive Endpoint where
  /-- All devices, without their histories. -/
  | devices
  /-- One device with its history. -/
  | device (identifier : String)
  /-- The firmwares of all devices for one version. -/
  | firmwares (version : String)
  /-- One firmware. -/
  | firmware (identifier build : String)
  /-- All public releases. -/
  | releases
  deriving DecidableEq, Repr

namespace Endpoint

/-- The fixed word of an endpoint. -/
def word : Endpoint → String
  | .devices => "devices"
  | .device _ => "device"
  | .firmwares _ => "ipsw"
  | .firmware _ _ => "ipsw"
  | .releases => "releases"

/-- The arguments of an endpoint. -/
def arguments : Endpoint → List String
  | .devices => []
  | .device identifier => [identifier]
  | .firmwares version => [version]
  | .firmware identifier build => [identifier, build]
  | .releases => []

/-- Where an endpoint lies below the base address. -/
def segments (e : Endpoint) : List (List Char) := (e.word :: e.arguments).map String.toList

/-- The address of an endpoint. -/
def url (e : Endpoint) (base : BaseUrl) : Url := base.below e.segments

end Endpoint

end FirmwareCatalog
