/-
**The records of a firmware catalog.**

A catalog lists devices.  A device has a history of firmwares, the newest first, and a release names
the devices that it is for.  Whatever a catalog does not know about a record is the empty text,
zero, false, the empty list, or no date.

Records are equal when they agree in every field and every list in order; dates agree when they name
the same instant.

Main definitions:

* `Firmware`, `Device`, `Release` — the records;
* `Device.firmwareByBuild?`, `Device.firmwareByVersion?` — the first firmware of a history with a
  given build or version.
-/
import FirmwareCatalog.Timestamp.Basic

set_option relaxedAutoImplicit false
set_option autoImplicit false

namespace FirmwareCatalog

/-- One firmware image of a device. -/
structure Firmware where
  /-- The device that the image is for. -/
  identifier : String := ""
  version : String := ""
  build : String := ""
  sha1 : String := ""
  md5 : String := ""
  size : UInt64 := 0
  /-- Where the image is to be had. -/
  url : String := ""
  released : Option Timestamp := none
  uploaded : Option Timestamp := none
  signed : Bool := false
  deriving BEq

/-- A hardware model. -/
structure Device where
  name : String := ""
  /-- The model's own name, such as `iPhone12,8`. -/
  identifier : String := ""
  board : String := ""
  platform : String := ""
  chip : UInt32 := 0
  boardId : UInt32 := 0
  /-- The history, in the order of the catalog. -/
  firmwares : List Firmware := []
  deriving BEq

/-- A public release. -/
structure Release where
  version : String := ""
  build : String := ""
  released : Option Timestamp := none
  beta : Bool := false
  /-- The release is a candidate. -/
  candidate : Bool := false
  signed : Bool := false
  /-- The devices that the release is for. -/
  devices : List String := []
  deriving BEq

namespace Device

/-- The first firmware of the history with exactly this build. -/
def firmwareByBuild? (d : Device) (build : String) : Option Firmware :=
  d.firmwares.find? fun fw => fw.build == build

/-- The first firmware of the history with exactly this version. -/
def firmwareByVersion? (d : Device) (version : String) : Option Firmware :=
  d.firmwares.find? fun fw => fw.version == version

end Device

end FirmwareCatalog
