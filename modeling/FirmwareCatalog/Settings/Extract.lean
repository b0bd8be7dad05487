/-
**Settings from layers.**

Layers of settings, laid over one another, are read into settings.  Every field takes values of one
kind only.  A table gives the fields by their keys and may leave out each of them; keys that no field
has are passed over.  A list gives the fields by their order, and has to give all that have no value
of their own.

Where several fields are wrong the error is about the first of them, in a table by the order of their
keys.

Main definitions:

* `Extract.text`, `Extract.unsigned64`, `Extract.optional` — what fields take;
* `Extract.api` — the choices about the catalog in use;
* `Settings.ofLayers` — all settings.
-/
import FirmwareCatalog.Settings.Basic
import FirmwareCatalog.Settings.Error

set_option relaxedAutoImplicit false
set_option autoImplicit false

namespace FirmwareCatalog

namespace Extract

/-! ### Values -/

/-- A text. -/
def text (expected : Expected) (keys : List String) : Datum → Except LayerFault String
  | .scalar _ (.text s) => .ok s
  | d => .error (.kind d expected keys)

/-- A number of 64 bits without a sign. -/
def unsigned64 (keys : List String) : Datum → Except LayerFault UInt64
  | .scalar _ (.unsigned n) => .ok (UInt64.ofNat n)
  | .scalar o (.signed n) =>
    if n < 0 then .error (.range (.scalar o (.signed n)) .unsigned64 keys)
    else .ok (UInt64.ofNat n.toNat)
  | d => .error (.kind d .unsigned64 keys)

/-- A value, or none where it is expressly left unset. -/
def optional {α : Type} (take : List String → Datum → Except LayerFault α) (keys : List String) :
    Datum → Except LayerFault (Option α)
  | .scalar _ .unset => .ok none
  | d => (take keys d).map some

def path (keys : List String) (d : Datum) : Except LayerFault Path :=
  (text .path keys d).map Path.ofText

/-! ### Fields -/

/-- A field of a table; without its key it has a value of its own. -/
def field {α : Type} (entries : List (String × Datum)) (keys : List String) (key : String) (own : α)
    (take : List String → Datum → Except LayerFault α) : Except LayerFault α :=
  match entries.lookup key with
  | none => .ok own
  | some d => take (keys ++ [key]) d

/-- A field of a list that has a value of its own. -/
def item {α : Type} (items : List Datum) (keys : List String) (place : Nat) (own : α)
    (take : List String → Datum → Except LayerFault α) : Except LayerFault α :=
  match items[place]? with
  | none => .ok own
  | some d => take (keys ++ [toString place]) d

/-- A field of a list that has to be given. -/
def requiredItem {α : Type} (items : List Datum) (keys : List String) (place : Nat)
    (short : LayerFault) (take : List String → Datum → Except LayerFault α) :
    Except LayerFault α :=
  match items[place]? with
  | none => .error short
  | some d => take (keys ++ [toString place]) d

/-- The choices about the catalog in use, by their keys. -/
def apiOfTable (entries : List (String × Datum)) (keys : List String) :
    Except LayerFault ApiSettings := do
  let own : ApiSettings := {}
  let baseUrl ← field entries keys "base_url" own.baseUrl (text .text)
  let certificates ← field entries keys "ca_cert" own.certificates (optional path)
  let timeout ← field entries keys "timeout" own.timeout unsigned64
  let userAgent ← field entries keys "user_agent" own.userAgent (optional (text .text))
  pure ⟨baseUrl, timeout, userAgent, certificates⟩

/-- The choices about the catalog in use, by their order. -/
def apiOfList (o : Origin) (items : List Datum) (keys : List String) :
    Except LayerFault ApiSettings := do
  let own : ApiSettings := {}
  let short (n : Nat) : LayerFault := .length n (.recordOf "ApiSettings" 4) ⟨o, keys⟩
  let baseUrl ← item items keys 0 own.baseUrl (text .text)
  let timeout ← item items keys 1 own.timeout unsigned64
  let userAgent ← requiredItem items keys 2 (short 2) (optional (text .text))
  let certificates ← requiredItem items keys 3 (short 3) (optional path)
  pure ⟨baseUrl, timeout, userAgent, certificates⟩

/-- The choices about the catalog in use. -/
def api (keys : List String) : Datum → Except LayerFault ApiSettings
  | .table _ entries => apiOfTable entries keys
  | .list o items => apiOfList o items keys
  | d => .error (.kind d (.record "ApiSettings") keys)

end Extract

def Settings.ofEntries (entries : List (String × Datum)) : Except LayerFault Settings :=
  (Extract.field entries [] "api" {} Extract.api).map Settings.mk

/-- All settings, from layers laid over one another. -/
def Settings.ofLayers : Datum → Except LayerFault Settings
  | .table _ entries => Settings.ofEntries entries
  | d => .error (.kind d (.record "Config") [])

end FirmwareCatalog
