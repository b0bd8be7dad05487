/-
**What can be wrong with settings.**

A layer of settings can hold a value of a kind that its key does not take.  The message says what was
found, what was expected, under which key, and where the value comes from.  In a file the keys stand
below the heading `default`; in the environment they are shown in large letters, as in the names of
variables.

Beyond that, settings that could be read may still make no sense, and files may not be read or
written.

Main definitions:

* `Place` — where a value stands, `Place.phrase` — how messages show it;
* `LayerFault` — what is wrong with a layer;
* `SettingsError` — all that can be wrong, `SettingsError.message` — its wording.
-/
import FirmwareCatalog.Decimal.Shortest
import FirmwareCatalog.Expected
import FirmwareCatalog.Files.Tree
import FirmwareCatalog.Settings.Datum
import FirmwareCatalog.Text.Quoted

set_option relaxedAutoImplicit false
set_option autoImplicit false

namespace FirmwareCatalog

/-! ### Places -/

/-- Where a value stands: the layer that it comes from, and the keys that lead to it. -/
structure Place where
  origin : Origin
  keys : List String
  deriving Repr

namespace Place

def key (p : Place) : String :=
  match p.origin with
  | .environment => ".".intercalate (p.keys.map String.toUpper)
  | .defaults | .file _ => ".".intercalate ("default" :: p.keys)

/-- The layer that a value comes from. -/
def source (p : Place) : String :=
  match p.origin with
  | .defaults => ""
  | .file shown => " in " ++ shown.display ++ " TOML file"
  | .environment => " in `IPSW_` environment variable(s)"

/-- Where a value stands, as the end of a message. -/
def phrase (p : Place) : String := " for key \"" ++ p.key ++ "\"" ++ p.source

end Place

/-! ### Layers -/

def settingsLayout : Layout := ⟨none, false⟩

/-- How a message shows a value that holds no others. -/
def Scalar.phrase : Scalar → String
  | .unset => "unit"
  | .text s => "string " ++ Text.quotedString s
  | .bool b => "bool " ++ (if b then "true" else "false")
  | .signed n => "signed int `" ++ toString n ++ "`"
  | .unsigned n => "unsigned int `" ++ toString n ++ "`"
  | .real x => "float `" ++ settingsLayout.render x ++ "`"

/-- How a message shows a value. -/
def Datum.phrase : Datum → String
  | .scalar _ v => v.phrase
  | .list _ _ => "sequence"
  | .table _ _ => "map"

/-- What is wrong with a layer of settings. -/
inductive LayerFault where
  /-- A value of another kind than expected. -/
  | kind (found : Datum) (expected : Expected) (keys : List String)
  /-- A number that is too small for what is expected. -/
  | range (found : Datum) (expected : Expected) (keys : List String)
  /-- A list that ends before all fields that it has to give. -/
  | length (found : Nat) (expected : Expected) (place : Place)
  /-- A file that is not UTF-8. -/
  | encoding (shown : Path)
  /-- A file that cannot be read. -/
  | closed (shown : Path) (failure : FileFailure)
  /-- A file that is no TOML document. -/
  | unreadable
  deriving Repr

/-- The wording of a fault. -/
def LayerFault.message : LayerFault → String
  | .kind d e keys =>
    "invalid type: found " ++ d.phrase ++ ", expected " ++ e.phrase ++ (Place.mk d.origin keys).phrase
  | .range d e keys =>
    "invalid value " ++ d.phrase ++ ", expected " ++ e.phrase ++ (Place.mk d.origin keys).phrase
  | .length n e place =>
    "invalid length " ++ toString n ++ ", expected " ++ e.phrase ++ place.phrase
  | .encoding shown =>
    "stream did not contain valid UTF-8\n" ++ (Place.mk (.file shown) []).source
  | .closed shown failure => failure.message ++ "\n" ++ (Place.mk (.file shown) []).source
  | .unreadable => "TOML parse error"

/-! ### Settings -/

/-- The field that a complaint is about. -/
inductive SettingsField where
  | baseUrl
  | timeout
  deriving DecidableEq, Repr

def SettingsField.name : SettingsField → String
  | .baseUrl => "api.base_url"
  | .timeout => "api.timeout"

/-- Why settings have no written form. -/
inductive Unwritable where
  /-- A number that TOML documents cannot hold. -/
  | number
  /-- A path that is not a text. -/
  | path
  deriving DecidableEq, Repr

def Unwritable.message : Unwritable → String
  | .number => "out-of-range value for u64 type"
  | .path => "path contains invalid UTF-8 characters"

/-- What can be wrong with settings. -/
inductive SettingsError where
  /-- A value that makes no sense. -/
  | invalid (field : SettingsField) (reason : String)
  /-- Settings that have no written form. -/
  | unwritable (reason : Unwritable)
  /-- A layer that cannot be used. -/
  | layer (fault : LayerFault)
  /-- A file that cannot be written. -/
  | file (failure : FileFailure)
  deriving Repr

/-- The wording of an error. -/
def SettingsError.message : SettingsError → String
  | .invalid field reason => "invalid " ++ field.name ++ ": " ++ reason
  | .unwritable reason => "failed to serialize config: " ++ reason.message
  | .layer fault => "config loading failed: " ++ fault.message
  | .file failure => "IO error: " ++ failure.message

end FirmwareCatalog
