/-
**Decoding fields.**

A decoder turns the tree of a value into what a field holds, or gives the first fault of the text
as seen by that field.  Content of another kind is itself read to its end first, unless it is an
array or an object: these are refused at their opening bracket.

A text decodes if its first value does and only blanks follow.

Main definitions:

* `Json.Decoder` — trees to values;
* `Json.text`, `Json.flag`, `Json.unsigned`, `Json.list`, `Json.nullable` — the decoders of fields;
* `Json.mismatch` — the fault of content of another kind;
* `Json.decode` — the decoding of a whole text.
-/
import FirmwareCatalog.Json.Reader

set_option relaxedAutoImplicit false
set_option autoImplicit false

namespace FirmwareCatalog.Json

/-- Trees to values, or the first fault. -/
abbrev Decoder (α : Type) : Type := Node → Except Fault α

/-- The fault of a value where something else was expected. -/
def mismatch (expected : Expected) : Node → Fault
  | .null after => ⟨.wrongType .null expected, .before after⟩
  | .bool b after => ⟨.wrongType (.bool b) expected, .before after⟩
  | .number literal =>
    match literal.read with
    | .ok n => ⟨.wrongType (.number n) expected, .before literal.after⟩
    | .error fault => fault
  | .badNumber rest => numberFault rest
  | .string token =>
    match token.value, token.after with
    | .error fault, _ => fault
    | .ok _, .error fault => fault
    | .ok s, .ok after => ⟨.wrongType (.string s) expected, .before after⟩
  | .array start _ => ⟨.wrongType .sequence expected, .before start⟩
  | .object start _ => ⟨.wrongType .map expected, .before start⟩
  | .absent fault => fault

/-- A string; the argument says what its field calls it. -/
def text (expected : Expected) : Decoder String
  | .string token =>
    match token.value, token.after with
    | .error fault, _ => .error fault
    | .ok _, .error fault => .error fault
    | .ok s, .ok _ => .ok s
  | node => .error (mismatch expected node)

/-- A string that has a form of its own.  The reader of that form gives its reason for refusing. -/
def formatted {α : Type} (expected : Expected) (readText : String → Except String α) : Decoder α
  | .string token =>
    match token.value, token.after with
    | .error fault, _ => .error fault
    | .ok _, .error fault => .error fault
    | .ok s, .ok after =>
      match readText s with
      | .ok a => .ok a
      | .error reason => .error ⟨.unreadable reason, .before after⟩
  | node => .error (mismatch expected node)

/-- A truth value. -/
def flag : Decoder Bool
  | .bool b _ => .ok b
  | node => .error (mismatch .flag node)

/-- A natural number below the bound. -/
def unsigned (expected : Expected) (bound : Nat) : Decoder Nat
  | .number literal =>
    match literal.read with
    | .error fault => .error fault
    | .ok (.natural n) =>
      if n < bound then .ok n
      else .error ⟨.wrongValue (.number (.natural n)) expected, .before literal.after⟩
    | .ok (.negative n) =>
      .error ⟨.wrongValue (.number (.negative n)) expected, .before literal.after⟩
    | .ok (.real x) => .error ⟨.wrongType (.number (.real x)) expected, .before literal.after⟩
  | node => .error (mismatch expected node)

def unsigned32 : Decoder UInt32 := fun node =>
  (unsigned .unsigned32 UInt32.size node).map UInt32.ofNat

def unsigned64 : Decoder UInt64 := fun node =>
  (unsigned .unsigned64 UInt64.size node).map UInt64.ofNat

/-- A value that may be `null`. -/
def nullable {α : Type} (decoder : Decoder α) : Decoder (Option α)
  | .null _ => .ok none
  | node => (decoder node).map some

def nullAs {α : Type} (default : α) (decoder : Decoder α) : Decoder α := fun node =>
  (nullable decoder node).map fun a => a.getD default

/-- The fault of an array whose items are asked for. -/
def ItemsStop.listFault : ItemsStop → Fault
  | .ended => ⟨.endInList, .before []⟩
  | .stray rest => ⟨.expectedListEnd, .onto rest⟩
  | .commaClose rest => ⟨.trailingComma, .onto rest⟩
  | .commaEnd => ⟨.endInValue, .before []⟩
  | .unread => ⟨.endInList, .before []⟩

/-- The decoded items of an array, in order. -/
def Items.decode {α : Type} (decoder : Decoder α) : Items → Except Fault (List α)
  | .cons _ head tail => do
    let a ← decoder head
    let as ← tail.decode decoder
    .ok (a :: as)
  | .close _ => .ok []
  | .stop why => .error why.listFault

/-- An array of values of one kind. -/
def list {α : Type} (decoder : Decoder α) : Decoder (List α)
  | .array _ items => items.decode decoder
  | node => .error (mismatch .sequence node)

/-- The decoding of a whole text: its first value, with nothing but blanks after it. -/
def decodeChars {α : Type} (decoder : Decoder α) (s : List Char) : Except Fault α := do
  let node := read s
  let a ← decoder node
  match node.after? with
  | none => .error ⟨.endInValue, .before []⟩
  | some rest =>
    match skipBlank rest with
    | [] => .ok a
    | extra => .error ⟨.trailingCharacters, .onto extra⟩

/-- The decoding of a whole text. -/
def decode {α : Type} (decoder : Decoder α) (s : String) : Except Error α :=
  (decodeChars decoder s.toList).mapError (Fault.toError s.toList)

end FirmwareCatalog.Json
