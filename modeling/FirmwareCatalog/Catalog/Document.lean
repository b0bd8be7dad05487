/-
**Catalog records as JSON.**

Every field may be left out of an object, and `null` stands for a field's default.  Written records
give all their fields, in a fixed order, with `null` for a date that is not known.

Main definitions:

* `Firmware.decoder`, `Device.decoder`, `Release.decoder` — reading;
* `Firmware.toJson`, `Device.toJson`, `Release.toJson` — writing.
-/
import FirmwareCatalog.Catalog.Basic
import FirmwareCatalog.Json.Basic
import FirmwareCatalog.Json.Record
import FirmwareCatalog.Timestamp.Text

set_option relaxedAutoImplicit false
set_option autoImplicit false

namespace FirmwareCatalog

open Json (Decoder RecordField Schema)

/-! ### Kinds of fields -/

def textField {ρ : Type} (key : String) (put : String → ρ → ρ) : RecordField ρ :=
  .optional key (Json.nullAs "" (Json.text .text)) put

def flagField {ρ : Type} (key : String) (put : Bool → ρ → ρ) : RecordField ρ :=
  .optional key (Json.nullAs false Json.flag) put

/-- A date, or none. -/
def dateField {ρ : Type} (key : String) (put : Option Timestamp → ρ → ρ) : RecordField ρ :=
  .optional key
    (Json.nullable (Json.formatted .timestamp fun s =>
      (Timestamp.parse s).mapError Timestamp.Refusal.message))
    put

def listField {ρ α : Type} (key : String) (decoder : Decoder α) (put : List α → ρ → ρ) : RecordField ρ :=
  .optional key (Json.nullAs [] (Json.list decoder)) put

def dateJson : Option Timestamp → Json := Json.ofOption fun t => .string t.render

/-! ### Firmwares -/

namespace Firmware

/-- The fields of a firmware, in their order. -/
def schema : Schema Firmware where
  name := "Firmware"
  blank := {}
  fields :=
    [textField "identifier" fun s fw => { fw with identifier := s },
     textField "version" fun s fw => { fw with version := s },
     textField "buildid" fun s fw => { fw with build := s },
     textField "sha1sum" fun s fw => { fw with sha1 := s },
     textField "md5sum" fun s fw => { fw with md5 := s },
     .optional "filesize" (Json.nullAs 0 Json.unsigned64) fun n fw => { fw with size := n },
     textField "url" fun s fw => { fw with url := s },
     dateField "releasedate" fun d fw => { fw with released := d },
     dateField "uploaddate" fun d fw => { fw with uploaded := d },
     flagField "signed" fun b fw => { fw with signed := b }]

/-- Firmwares as JSON gives them. -/
def decoder : Decoder Firmware := Json.record schema

/-- A firmware as a JSON value. -/
def toJson (fw : Firmware) : Json :=
  .object
    [("identifier", .string fw.identifier), ("version", .string fw.version),
     ("buildid", .string fw.build), ("sha1sum", .string fw.sha1), ("md5sum", .string fw.md5),
     ("filesize", .nat fw.size.toNat), ("url", .string fw.url),
     ("releasedate", dateJson fw.released), ("uploaddate", dateJson fw.uploaded),
     ("signed", .bool fw.signed)]

end Firmware

/-! ### Devices -/

namespace Device

/-- The fields of a device, in their order. -/
def schema : Schema Device where
  name := "Device"
  blank := {}
  fields :=
    [textField "name" fun s d => { d with name := s },
     textField "identifier" fun s d => { d with identifier := s },
     textField "boardconfig" fun s d => { d with board := s },
     textField "platform" fun s d => { d with platform := s },
     .optional "cpid" (Json.nullAs 0 Json.unsigned32) fun n d => { d with chip := n },
     .optional "bdid" (Json.nullAs 0 Json.unsigned32) fun n d => { d with boardId := n },
     listField "firmwares" Firmware.decoder fun fws d => { d with firmwares := fws }]

/-- Devices as JSON gives them. -/
def decoder : Decoder Device := Json.record schema

/-- A device as a JSON value. -/
def toJson (d : Device) : Json :=
  .object
    [("name", .string d.name), ("identifier", .string d.identifier),
     ("boardconfig", .string d.board), ("platform", .string d.platform),
     ("cpid", .nat d.chip.toNat), ("bdid", .nat d.boardId.toNat),
     ("firmwares", .array (d.firmwares.map Firmware.toJson))]

end Device

/-! ### Releases -/

namespace Release

/-- The fields of a release, in their order. -/
def schema : Schema Release where
  name := "Release"
  blank := {}
  fields :=
    [textField "version" fun s r => { r with version := s },
     textField "buildid" fun s r => { r with build := s },
     dateField "released" fun d r => { r with released := d },
     flagField "beta" fun b r => { r with beta := b },
     flagField "rc" fun b r => { r with candidate := b },
     flagField "signed" fun b r => { r with signed := b },
     listField "deviceIds" (Json.text .text) fun ids r => { r with devices := ids }]

/-- Releases as JSON gives them. -/
def decoder : Decoder Release := Json.record schema

/-- A release as a JSON value. -/
def toJson (r : Release) : Json :=
  .object
    [("version", .string r.version), ("buildid", .string r.build),
     ("released", dateJson r.released), ("beta", .bool r.beta), ("rc", .bool r.candidate),
     ("signed", .bool r.signed), ("deviceIds", .array (r.devices.map Json.string))]

end Release

end FirmwareCatalog
