/-
**Questions about firmwares.**

Some questions are a single request, others are put together from several.  To find the version of a
build, the devices of the catalog are asked for their histories one after the other, the last one
first, until one of them has the build; a device that gives no answer is passed over.

Main definitions:

* `Client.allDevices`, `Client.device`, `Client.firmwares`, `Client.firmware`, `Client.releases` —
  single requests;
* `ScanStep`, `Client.scanDevice`, `Client.versionOfBuild` — the search for a build;
* `Client.buildOfVersion` — the build of a version for one device;
* `Client.sharedFirmwares`, `Client.successorFirmware` — the paired models.
-/
import FirmwareCatalog.Api.Client
import FirmwareCatalog.Catalog.Document
import FirmwareCatalog.Catalog.Pairing

set_option relaxedAutoImplicit false
set_option autoImplicit false

namespace FirmwareCatalog

/-- What one device has to say about a build. -/
inductive ScanStep where
  /-- The device has the build, with this version. -/
  | found (version : String)
  /-- The device does not have the build. -/
  | missing
  /-- The device gave no answer. -/
  | skipped (error : ApiError)
  deriving DecidableEq, Repr

/-- A call whose error is put into a context. -/
def Call.inStep {σ α : Type} (step : String) (call : Call σ α) : Call σ α :=
  ExceptT.mk fun s =>
    match call.run s with
    | (.ok a, s) => (.ok a, s)
    | (.error e, s) => (.error (.context step e), s)

def Call.first {σ α : Type} (items : List α) (fits : α → Bool) (missing : String) : Call σ α :=
  match items.find? fits with
  | some a => pure a
  | none => throw (.notFound missing)

namespace Client

variable {σ : Type}

/-! ### Single requests -/

/-- All devices, in the order of the catalog. -/
def allDevices (c : Client) : Call σ (List Device) := c.get (Json.list Device.decoder) .devices

/-- One device with its history. -/
def device (c : Client) (identifier : String) : Call σ Device :=
  c.get Device.decoder (.device identifier)

def history (c : Client) (identifier : String) : Call σ (List Firmware) := do
  let d ← c.device identifier
  pure d.firmwares

/-- The firmwares of all devices for one version. -/
def firmwares (c : Client) (version : String) : Call σ (List Firmware) :=
  c.get (Json.list Firmware.decoder) (.firmwares version)

/-- One firmware. -/
def firmware (c : Client) (identifier build : String) : Call σ Firmware :=
  c.get Firmware.decoder (.firmware identifier build)

/-- All public releases. -/
def releases (c : Client) : Call σ (List Release) := c.get (Json.list Release.decoder) .releases

/-! ### Builds and versions -/

/-- What one device has to say about a build.  This cannot fail. -/
def scanDevice (c : Client) (identifier build : String) : StateM (Session σ) ScanStep := fun s =>
  match (c.device identifier).run s with
  | (.ok d, s) =>
    match d.firmwareByBuild? build with
    | some fw => (.found fw.version, s)
    | none => (.missing, s)
  | (.error e, s) => (.skipped e, s)

/-- The version that the first of the devices with the build gives. -/
def scanDevices (c : Client) (build : String) : List Device → StateM (Session σ) (Option String)
  | [] => fun s => (none, s)
  | d :: rest => fun s =>
    match c.scanDevice d.identifier build s with
    | (.found version, s) => (some version, s)
    | (.missing, s) => c.scanDevices build rest s
    | (.skipped _, s) => c.scanDevices build rest s

/-- The version of a build, from the last device of the catalog that has it. -/
def versionOfBuild (c : Client) (build : String) : Call σ String := do
  let ds ← Call.inStep "failed to get all devices from ipsw.me API" c.allDevices
  match ← ExceptT.lift (c.scanDevices build ds.reverse) with
  | some version => pure version
  | none => throw (.notFound ("build " ++ build ++ " did not match a version in the ipsw.me API"))

/-- The build of a version for one device. -/
def buildOfVersion (c : Client) (version identifier : String) : Call σ String := do
  let fws ← c.firmwares version
  let fw ← Call.first fws (fun fw => fw.identifier == identifier)
    ("no build found for version " ++ version ++ " and device " ++ identifier)
  pure fw.build

/-! ### The paired models -/

def secondHistory (c : Client) : Call σ (List Firmware) :=
  Call.inStep "failed to get SE2 IPSWs" (c.history Pairing.secondIdentifier)

def thirdHistory (c : Client) : Call σ (List Firmware) :=
  Call.inStep "failed to get SE3 IPSWs" (c.history Pairing.thirdIdentifier)

def versions (fws : List Firmware) : List String := fws.foldl (fun vs fw => vs.insert fw.version) []

/-- The firmwares of the third generation whose version the second one has too, or only those of one
such version. -/
def shared (second third : List Firmware) (version : Option String) : List Firmware :=
  let known := versions second
  let common := third.filter fun fw => known.contains fw.version
  common.filter fun fw => version.all (fw.version == ·)

/-- The firmwares of the third generation whose version the second one has too. -/
def sharedFirmwares (c : Client) (version : Option String) : Call σ (List Firmware) := do
  let second ← c.secondHistory
  let third ← c.thirdHistory
  pure (shared second third version)

/-- The firmware of the third generation for a version of the second one. -/
def successorFirmware (c : Client) (version : String) : Call σ Firmware := do
  let third ← c.thirdHistory
  Call.first third (fun fw => fw.version == version)
    ("no SE3 IPSW found for SE2 version " ++ version)

end Client

end FirmwareCatalog
