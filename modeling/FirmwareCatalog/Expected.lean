/-
**What a field holds.**

Two kinds of documents are read into records, JSON texts and settings files, and both say in the
same words what a field should have held.

Main definitions:

* `Expected` — the kinds of content;
* `Expected.phrase` — how an error message names them.
-/

set_option relaxedAutoImplicit false
set_option autoImplicit false

namespace FirmwareCatalog

/-- The kinds of content a reader can ask for. -/
inductive Expected where
  | text
  | path
  | flag
  | unsigned32
  | unsigned64
  | sequence
  | timestamp
  /-- A record of the given name. -/
  | record (name : String)
  /-- A record of the given name, given by the sequence of its fields. -/
  | recordOf (name : String) (fields : Nat)
  deriving DecidableEq, Repr

/-- How an error message names what was expected. -/
def Expected.phrase : Expected → String
  | .text => "a string"
  | .path => "path string"
  | .flag => "a boolean"
  | .unsigned32 => "u32"
  | .unsigned64 => "u64"
  | .sequence => "a sequence"
  | .timestamp => "an RFC 3339 formatted date and time string"
  | .record name => "struct " ++ name
  | .recordOf name fields =>
    "struct " ++ name ++ " with " ++ toString fields ++ (if fields = 1 then " element" else " elements")

end FirmwareCatalog
