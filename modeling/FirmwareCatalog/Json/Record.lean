/-
**Decoding records.**

A record is written as an object, or as an array that gives the fields in their order.  In an
object the fields may come in any order, a field that the record does not have is skipped over, and
a field that comes twice is refused as soon as its name is read for the second time.  In an array
the fields at the end may be left out if they have a value without being given.

Main definitions:

* `Json.RecordField`, `Json.Schema` — a field of a record, and its fields in order;
* `Json.Members.decode`, `Json.Items.fields` — the two written forms;
* `Json.record` — the decoder of a record.
-/
import FirmwareCatalog.Json.Decode

set_option relaxedAutoImplicit false
set_option autoImplicit false

namespace FirmwareCatalog.Json

/-- A field of the records of a type: its key, how its value changes a record, whether an object
has to give it, and whether an array has to. -/
structure RecordField (ρ : Type) where
  key : String
  set : Node → Except Fault (ρ → ρ)
  required : Bool
  positional : Bool

/-- The fields of a type of records, and the record that has none of them set. -/
structure Schema (ρ : Type) where
  name : String
  blank : ρ
  fields : List (RecordField ρ)

namespace RecordField

def optional {ρ α : Type} (key : String) (decoder : Decoder α) (put : α → ρ → ρ) : RecordField ρ :=
  ⟨key, fun node => (decoder node).map put, false, false⟩

def listed {ρ α : Type} (key : String) (decoder : Decoder α) (put : α → ρ → ρ) : RecordField ρ :=
  ⟨key, fun node => (decoder node).map put, false, true⟩

def mandatory {ρ α : Type} (key : String) (decoder : Decoder α) (put : α → ρ → ρ) : RecordField ρ :=
  ⟨key, fun node => (decoder node).map put, true, true⟩

end RecordField

namespace Schema

def field? {ρ : Type} (schema : Schema ρ) (key : String) : Option (RecordField ρ) :=
  schema.fields.find? fun f => f.key == key

def missing? {ρ : Type} (schema : Schema ρ) (seen : List String) : Option (RecordField ρ) :=
  schema.fields.find? fun f => f.required && !seen.contains f.key

theorem missing?_eq_none_iff {ρ : Type} {schema : Schema ρ} {seen : List String} :
    schema.missing? seen = none ↔ ∀ f ∈ schema.fields, f.required = true → f.key ∈ seen := by
  simp [missing?]

end Schema

/-- The fault of an object whose members are asked for. -/
def MembersStop.recordFault : MembersStop → Fault
  | .ended => ⟨.endInObject, .before []⟩
  | .stray rest => ⟨.expectedObjectEnd, .onto rest⟩
  | .keyless rest => ⟨.keyNotString, .onto rest⟩
  | .commaClose rest => ⟨.trailingComma, .onto rest⟩
  | .commaStray rest => ⟨.keyNotString, .onto rest⟩
  | .commaEnd => ⟨.endInValue, .before []⟩
  | .unread => ⟨.endInObject, .before []⟩

/-- Where a key that comes twice is reported: before what follows it, or after that if it is the
closing brace. -/
def repeatedSpot (rest : List Char) : Spot :=
  match skipBlank rest with
  | '\x7d' :: r => .before r
  | r => .before r

/-- The fault of a key that cannot be used: an unreadable one, or one that comes twice. -/
def keyFault? (key : StringToken) (known : String → Bool) (seen : List String) :
    Except Fault String :=
  match key.value, key.after with
  | .error fault, _ => .error fault
  | .ok _, .error fault => .error fault
  | .ok k, .ok rest =>
    if known k && seen.contains k then .error ⟨.duplicateField k, repeatedSpot rest⟩ else .ok k

/-- The record given by the members of an object, from a record with the fields seen so far. -/
def Members.decode {ρ : Type} (schema : Schema ρ) (seen : List String) (record : ρ) :
    Members → Except Fault ρ
  | .cons key value tail => do
    let k ← keyFault? key (fun k => (schema.field? k).isSome) seen
    match schema.field? k with
    | none =>
      value.skip
      tail.decode schema seen record
    | some field =>
      let put ← field.set value
      tail.decode schema (k :: seen) (put record)
  | .close after =>
    match schema.missing? seen with
    | some field => .error ⟨.missingField field.key, .before after⟩
    | none => .ok record
  | .stop why => .error why.recordFault
  | .cut key => do
    let _ ← keyFault? key (fun k => (schema.field? k).isSome) seen
    match key.after with
    | .ok rest => .error (colonFault rest)
    | .error fault => .error fault

/-- The fault of an array that goes on after the last field. -/
def Items.extra? : Items → Option Fault
  | .cons start _ _ => some ⟨.trailingCharacters, .onto start⟩
  | .close _ => none
  | .stop .ended => some ⟨.endInList, .before []⟩
  | .stop (.stray rest) => some ⟨.trailingCharacters, .onto rest⟩
  | .stop (.commaClose rest) => some ⟨.trailingComma, .onto rest⟩
  | .stop .commaEnd => some ⟨.trailingCharacters, .before []⟩
  | .stop .unread => some ⟨.endInList, .before []⟩

/-- The record given by the items of an array, from the record that its first fields gave. -/
def Items.fields {ρ : Type} (name : String) (total : Nat) :
    List (RecordField ρ) → ρ → Items → Except Fault ρ
  | [], record, items =>
    match items.extra? with
    | some fault => .error fault
    | none => .ok record
  | field :: rest, record, .cons _ head tail => do
    let put ← field.set head
    tail.fields name total rest (put record)
  | field :: rest, record, .close after =>
    match (field :: rest).findIdx? (·.positional) with
    | none => .ok record
    | some i =>
      .error ⟨.wrongLength (total - (rest.length + 1) + i) (.recordOf name total), .before after⟩
  | _ :: _, _, .stop why => .error why.listFault

/-- The decoder of a record. -/
def record {ρ : Type} (schema : Schema ρ) : Decoder ρ
  | .object _ members => members.decode schema [] schema.blank
  | .array _ items => items.fields schema.name schema.fields.length schema.fields schema.blank
  | node => .error (mismatch (.record schema.name) node)

end FirmwareCatalog.Json
