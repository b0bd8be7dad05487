/-
**What is wrong with a JSON text, and where.**

A fault names its cause and the spot at which the reader noticed it.  A spot is given by what is
left of the text there, so that it does not depend on what stands before; only when an error is
shown is it turned into a line and a column of the whole text.  Columns count bytes.

Main definitions:

* `Json.Spot` — a place in a text, `Json.Spot.position` — its line and column;
* `Json.Cause` — the causes, `Json.Cause.message` — their wording;
* `Json.Fault` — a cause at a spot;
* `Json.Error` — a fault shown for a whole text.
-/
import FirmwareCatalog.Decimal.Shortest
import FirmwareCatalog.Expected
import FirmwareCatalog.Text.Quoted
import FirmwareCatalog.Text.Utf8

set_option relaxedAutoImplicit false
set_option autoImplicit false

namespace FirmwareCatalog.Json

/-- A place in a text: the text left there, and how many bytes further the place lies.  The end of
the text is never passed. -/
structure Spot where
  rest : List Char
  bytes : Nat
  deriving DecidableEq, Repr

def Spot.before (rest : List Char) : Spot := ⟨rest, 0⟩

def Spot.onto (rest : List Char) : Spot := ⟨rest, 1⟩

/-- A line and a column, the first line being line 1 and the column counting the bytes before the
place in its line. -/
structure Position where
  line : Nat
  column : Nat
  deriving DecidableEq, Repr

/-- The position of a spot in the whole text. -/
def Spot.position (text : List Char) (s : Spot) : Position :=
  let bytes := Utf8.encode text
  let before := bytes.take (bytes.length - Utf8.size s.rest + s.bytes)
  ⟨before.count 10 + 1, (before.reverse.takeWhile (· ≠ 10)).length⟩

/-- A number as the reader understands it: a natural number, a negative integer, or a binary64
number where the literal is neither or too long. -/
inductive Number where
  | natural (n : Nat)
  | negative (n : Nat)
  | real (x : Binary64)
  deriving DecidableEq, Repr

/-- What was found in place of the content expected. -/
inductive Found where
  | null
  | bool (b : Bool)
  | number (n : Number)
  | string (s : String)
  | sequence
  | map
  deriving DecidableEq, Repr

/-- Numbers that are not integers are shown with a point; an exponent is used below `10 ^ (-5)` and
from `10 ^ 16` on. -/
def numberLayout : Layout := ⟨some (-5, 15), true⟩

def Number.phrase : Number → String
  | .natural n => "integer " ++ "`" ++ toString n ++ "`"
  | .negative n => "integer " ++ "`" ++ "-" ++ toString n ++ "`"
  | .real x => "floating point " ++ "`" ++ numberLayout.render x ++ "`"

/-- How an error message shows what was found. -/
def Found.phrase : Found → String
  | .null => "null"
  | .bool true => "boolean `true`"
  | .bool false => "boolean `false`"
  | .number n => n.phrase
  | .string s => "string " ++ Text.quotedString s
  | .sequence => "sequence"
  | .map => "map"

/-- Why a text is not the JSON that its reader asked for. -/
inductive Cause where
  | endInValue
  | endInList
  | endInObject
  | endInString
  | expectedColon
  | expectedListEnd
  | expectedObjectEnd
  | expectedIdent
  | expectedValue
  | invalidEscape
  | invalidNumber
  | numberOutOfRange
  | controlCharacter
  | keyNotString
  | loneSurrogate
  | hexEscapeEnd
  | trailingComma
  | trailingCharacters
  /-- Content of another kind. -/
  | wrongType (found : Found) (expected : Expected)
  /-- A number that the field cannot hold. -/
  | wrongValue (found : Found) (expected : Expected)
  /-- A sequence that ends before a field that it has to give. -/
  | wrongLength (length : Nat) (expected : Expected)
  | missingField (key : String)
  | duplicateField (key : String)
  /-- A string that is not written as its field requires, with the reason. -/
  | unreadable (reason : String)
  deriving DecidableEq, Repr

/-- The wording of a cause. -/
def Cause.message : Cause → String
  | .endInValue => "EOF while parsing a value"
  | .endInList => "EOF while parsing a list"
  | .endInObject => "EOF while parsing an object"
  | .endInString => "EOF while parsing a string"
  | .expectedColon => "expected `:`"
  | .expectedListEnd => "expected `,` or `]`"
  | .expectedObjectEnd => "expected `,` or `\x7d`"
  | .expectedIdent => "expected ident"
  | .expectedValue => "expected value"
  | .invalidEscape => "invalid escape"
  | .invalidNumber => "invalid number"
  | .numberOutOfRange => "number out of range"
  | .controlCharacter => "control character (\\u0000-\\u001F) found while parsing a string"
  | .keyNotString => "key must be a string"
  | .loneSurrogate => "lone leading surrogate in hex escape"
  | .hexEscapeEnd => "unexpected end of hex escape"
  | .trailingComma => "trailing comma"
  | .trailingCharacters => "trailing characters"
  | .wrongType found expected => "invalid type: " ++ found.phrase ++ ", expected " ++ expected.phrase
  | .wrongValue found expected => "invalid value: " ++ found.phrase ++ ", expected " ++ expected.phrase
  | .wrongLength n expected => "invalid length " ++ toString n ++ ", expected " ++ expected.phrase
  | .missingField key => "missing field `" ++ key ++ "`"
  | .duplicateField key => "duplicate field `" ++ key ++ "`"
  | .unreadable reason => reason

/-- A cause, at the spot at which it was noticed. -/
structure Fault where
  cause : Cause
  spot : Spot
  deriving DecidableEq, Repr

/-- A fault, at its position in the whole text. -/
structure Error where
  cause : Cause
  position : Position
  deriving DecidableEq, Repr

def Fault.toError (text : List Char) (f : Fault) : Error := ⟨f.cause, f.spot.position text⟩

/-- The wording of an error. -/
def Error.message (e : Error) : String :=
  e.cause.message ++ " at line " ++ toString e.position.line ++ " column " ++
    toString e.position.column

end FirmwareCatalog.Json
