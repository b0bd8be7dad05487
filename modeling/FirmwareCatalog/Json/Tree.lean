/-
**JSON texts as trees.**

A text is read once, into a tree that also says where the reading had to stop.  The tree does not
say what is *wrong* there: `[1,]` ends in a bracket that follows a comma, and whether that is a
trailing comma or a missing value depends on who asks.  So the leaves of the tree keep what stands
at the stop, and the two ways of going through a tree, decoding a field and skipping over one,
choose their words themselves.

Every part of a tree knows the text that follows it.

Main definitions:

* `Json.Node`, `Json.Items`, `Json.Members` — values, the items of an array, the members of an
  object;
* `Json.StringToken` — a string, which may be skippable without being a text;
* `Json.Node.after?` — the text after a value that is complete;
* `Json.Node.skip` — the first fault met on the way over a value that nobody asks for.
-/
import FirmwareCatalog.Json.Numeral

set_option relaxedAutoImplicit false
set_option autoImplicit false

namespace FirmwareCatalog.Json

/-- A string after its opening quote.  The first component is its text, or the first fault in it;
the second the text after its closing quote, or the first fault that hides that quote.  A string
with an unpaired surrogate has an end but no text. -/
structure StringToken where
  value : Except Fault String
  after : Except Fault (List Char)

/-- What stands where the items of an array should go on. -/
inductive ItemsStop where
  /-- Nothing, where a comma or the closing bracket is due. -/
  | ended
  /-- Something else than these two. -/
  | stray (rest : List Char)
  /-- The closing bracket right after a comma. -/
  | commaClose (rest : List Char)
  /-- Nothing after a comma. -/
  | commaEnd
  /-- The item before is not complete. -/
  | unread

/-- What stands where the members of an object should go on. -/
inductive MembersStop where
  /-- Nothing, where a key, a comma or the closing brace is due. -/
  | ended
  /-- Something else than a comma and the closing brace. -/
  | stray (rest : List Char)
  /-- Something else than a key at the start of the object. -/
  | keyless (rest : List Char)
  /-- The closing brace right after a comma. -/
  | commaClose (rest : List Char)
  /-- Something else than a key after a comma. -/
  | commaStray (rest : List Char)
  /-- Nothing after a comma. -/
  | commaEnd
  /-- The member before is not complete. -/
  | unread

mutual

/-- A value in a JSON text. -/
inductive Node where
  | null (after : List Char)
  | bool (b : Bool) (after : List Char)
  | number (literal : Numeral)
  /-- A literal that stops short: the text from the stop on, which is empty or stands on the
  offending character. -/
  | badNumber (rest : List Char)
  | string (token : StringToken)
  | array (start : List Char) (items : Items)
  | object (start : List Char) (members : Members)
  /-- No value stands here. -/
  | absent (fault : Fault)

/-- The items of an array from some item on.  An item knows the text that starts with it. -/
inductive Items where
  | cons (start : List Char) (head : Node) (tail : Items)
  | close (after : List Char)
  | stop (why : ItemsStop)

/-- The members of an object from some member on. -/
inductive Members where
  | cons (key : StringToken) (value : Node) (tail : Members)
  | close (after : List Char)
  | stop (why : MembersStop)
  /-- A key that no colon follows. -/
  | cut (key : StringToken)

end

mutual

/-- The text after a value, if the value is complete. -/
def Node.after? : Node → Option (List Char)
  | .null after => some after
  | .bool _ after => some after
  | .number literal => some literal.after
  | .badNumber _ => none
  | .string token => token.after.toOption
  | .array _ items => items.after?
  | .object _ members => members.after?
  | .absent _ => none

/-- The text after the closing bracket. -/
def Items.after? : Items → Option (List Char)
  | .cons _ _ tail => tail.after?
  | .close after => some after
  | .stop _ => none

/-- The text after the closing brace. -/
def Members.after? : Members → Option (List Char)
  | .cons _ _ tail => tail.after?
  | .close after => some after
  | .stop _ => none
  | .cut _ => none

end

def skipBlank (s : List Char) : List Char :=
  s.dropWhile fun c => c == ' ' || c == '\n' || c == '\t' || c == '\r'

def colonFault (rest : List Char) : Fault :=
  match skipBlank rest with
  | [] => ⟨.endInObject, .before []⟩
  | r => ⟨.expectedColon, .onto r⟩

def numberFault (rest : List Char) : Fault :=
  if rest.isEmpty then ⟨.endInValue, .before []⟩ else ⟨.invalidNumber, .onto rest⟩

/-- The fault of an array that nobody asks for. -/
def ItemsStop.skipFault : ItemsStop → Fault
  | .ended => ⟨.endInList, .before []⟩
  | .stray rest => ⟨.expectedListEnd, .onto rest⟩
  | .commaClose rest => ⟨.expectedValue, .onto rest⟩
  | .commaEnd => ⟨.endInValue, .before []⟩
  | .unread => ⟨.endInList, .before []⟩

/-- The fault of an object that nobody asks for. -/
def MembersStop.skipFault : MembersStop → Fault
  | .ended => ⟨.endInObject, .before []⟩
  | .stray rest => ⟨.expectedObjectEnd, .onto rest⟩
  | .keyless rest => ⟨.keyNotString, .onto rest⟩
  | .commaClose rest => ⟨.keyNotString, .onto rest⟩
  | .commaStray rest => ⟨.keyNotString, .onto rest⟩
  | .commaEnd => ⟨.endInObject, .before []⟩
  | .unread => ⟨.endInObject, .before []⟩

mutual

/-- The first fault met on the way over a value that nobody asks for.  Numbers only have to be well
formed, and strings only have to end. -/
def Node.skip : Node → Except Fault Unit
  | .null _ => .ok ()
  | .bool _ _ => .ok ()
  | .number _ => .ok ()
  | .badNumber rest => .error ⟨.invalidNumber, .onto rest⟩
  | .string token => token.after.map fun _ => ()
  | .array _ items => items.skip
  | .object _ members => members.skip
  | .absent fault => .error fault

/-- The first fault in the items of an array that nobody asks for. -/
def Items.skip : Items → Except Fault Unit
  | .cons _ head tail => do head.skip; tail.skip
  | .close _ => .ok ()
  | .stop why => .error why.skipFault

/-- The first fault in the members of an object that nobody asks for. -/
def Members.skip : Members → Except Fault Unit
  | .cons _ value tail => do value.skip; tail.skip
  | .close _ => .ok ()
  | .stop why => .error why.skipFault
  | .cut key =>
    match key.after with
    | .error fault => .error fault
    | .ok rest => .error (colonFault rest)

end

end FirmwareCatalog.Json
