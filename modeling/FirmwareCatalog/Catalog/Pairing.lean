/-
**The paired models.**

The second and the third generation of the iPhone SE share firmware versions, and a firmware for the
one stands in for a firmware of the other.  The pairing is declared, not found in the catalog.

Main definitions:

* `Pairing` — a declared pair, `Pairing.declared` — the one there is;
* `Pairing.successor` — the third generation for the second, and any other model for itself.
-/
import FirmwareCatalog.Json.Basic
import FirmwareCatalog.Json.Record

set_option relaxedAutoImplicit false
set_option autoImplicit false

namespace FirmwareCatalog

/-- A declared pair of models. -/
structure Pairing where
  second : String
  third : String
  compatible : Bool
  deriving DecidableEq, Repr

namespace Pairing

def secondIdentifier : String := "iPhone12,8"

def thirdIdentifier : String := "iPhone14,6"

/-- The declared pair. -/
def declared : Pairing := ⟨secondIdentifier, thirdIdentifier, true⟩

/-- The name is exactly that of the second generation. -/
def isSecond (identifier : String) : Bool := identifier == secondIdentifier

/-- The name is exactly that of the third generation. -/
def isThird (identifier : String) : Bool := identifier == thirdIdentifier

/-- The third generation in place of the second; any other name stays. -/
def successor (identifier : String) : String :=
  if isSecond identifier then thirdIdentifier else identifier

theorem successor_successor (identifier : String) :
    successor (successor identifier) = successor identifier := by
  have third : isSecond thirdIdentifier = false := by decide
  by_cases h : isSecond identifier <;> simp [successor, h, third]

/-- The fields of a pairing, in their order; all of them have to be given. -/
def schema : Json.Schema Pairing where
  name := "DeviceMapping"
  blank := ⟨"", "", false⟩
  fields :=
    [.mandatory "se2_identifier" (Json.text .text) fun s p => { p with second := s },
     .mandatory "se3_identifier" (Json.text .text) fun s p => { p with third := s },
     .mandatory "compatible" Json.flag fun b p => { p with compatible := b }]

def decoder : Json.Decoder Pairing := Json.record schema

def toJson (p : Pairing) : Json :=
  .object
    [("se2_identifier", .string p.second), ("se3_identifier", .string p.third),
     ("compatible", .bool p.compatible)]

end Pairing

end FirmwareCatalog
