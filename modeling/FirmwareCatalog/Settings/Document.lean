/-
**Settings as TOML documents.**

A document becomes a layer of settings: its numbers are those with signs, and dates are taken as
tables of their own, in which there is nothing for settings.

Written settings have one table.  Choices that are left unset are left out.  Numbers of 64 bits that do
not fit with a sign cannot be written, and neither can paths that are not texts.

Main definitions:

* `Datum.ofToml` — a value of a document as a part of a layer;
* `Settings.toToml` — settings as they are written.
-/
import FirmwareCatalog.Settings.Basic
import FirmwareCatalog.Settings.Error
import FirmwareCatalog.Toml.Value
import FirmwareCatalog.Toml.Writer

set_option relaxedAutoImplicit false
set_option autoImplicit false

namespace FirmwareCatalog

/-! ### Documents as layers -/

namespace Datum

mutual

/-- A value of a document as a part of a layer. -/
def ofToml (o : Origin) : Toml → Datum
  | .string s => .scalar o (.text (String.ofList s))
  | .integer n => .scalar o (.signed n)
  | .real x => .scalar o (.real x)
  | .bool b => .scalar o (.bool b)
  | .date => .table o []
  | .array items => .list o (ofItems o items)
  | .table _ entries => .table o (ofEntries o entries)
  | .tables items => .list o (ofTables o items)

def ofItems (o : Origin) : List Toml → List Datum
  | [] => []
  | v :: rest => ofToml o v :: ofItems o rest

def ofEntries (o : Origin) : List (List Char × Toml) → List (String × Datum)
  | [] => []
  | (k, v) :: rest => (String.ofList k, ofToml o v) :: ofEntries o rest

def ofTables (o : Origin) : List (List (List Char × Toml)) → List Datum
  | [] => []
  | entries :: rest => .table o (ofEntries o entries) :: ofTables o rest

end

end Datum

/-! ### Settings as documents -/

namespace ApiSettings

def textLine (key value : String) : String :=
  key ++ " = " ++ String.ofList (Toml.quote value.toList) ++ "\n"

def timeoutText (a : ApiSettings) : Except Unwritable String :=
  if a.timeout.toNat < 0x8000000000000000 then .ok (toString a.timeout.toNat) else .error .number

/-- The path of the further certificates as it is written, with its line. -/
def certificatesText (a : ApiSettings) : Except Unwritable String :=
  match a.certificates with
  | none => .ok ""
  | some p =>
    match p.text? with
    | none => .error .path
    | some text => .ok (textLine "ca_cert" text)

/-- The table of the choices, line by line. -/
def toToml (a : ApiSettings) : Except Unwritable String := do
  let timeout ← a.timeoutText
  let certificates ← a.certificatesText
  pure
    ("[api]\n" ++ textLine "base_url" a.baseUrl ++ "timeout = " ++ timeout ++ "\n" ++
      (a.userAgent.map (textLine "user_agent")).getD "" ++ certificates)

end ApiSettings

def Settings.toToml (s : Settings) : Except Unwritable String := s.api.toToml

end FirmwareCatalog
