/-
**JSON values and their compact text.**

Records are written as JSON without any blank between the tokens.  Only what has to be escaped is
escaped: the quote, the backslash and the characters below the space, five of which have a letter
of their own.

Main definitions:

* `Json` — the values that records are written as; members keep their order;
* `Json.render` — the compact text.
-/

set_option relaxedAutoImplicit false
set_option autoImplicit false

namespace FirmwareCatalog

/-- A JSON value.  Numbers are the natural numbers that records hold. -/
inductive Json where
  | null
  | bool (b : Bool)
  | nat (n : Nat)
  | string (s : String)
  | array (items : List Json)
  | object (members : List (String × Json))
  deriving Repr

namespace Json

def hexDigit (n : Nat) : Char := Nat.digitChar (n % 16)

/-- One character inside a JSON string. -/
def escapeChar (c : Char) : List Char :=
  if c = '"' then ['\\', '"']
  else if c = '\\' then ['\\', '\\']
  else if c.toNat = 8 then ['\\', 'b']
  else if c.toNat = 9 then ['\\', 't']
  else if c.toNat = 10 then ['\\', 'n']
  else if c.toNat = 12 then ['\\', 'f']
  else if c.toNat = 13 then ['\\', 'r']
  else if c.toNat < 0x20 then ['\\', 'u', '0', '0', hexDigit (c.toNat / 16), hexDigit c.toNat]
  else [c]

def renderString (s : String) : List Char := '"' :: s.toList.flatMap escapeChar ++ ['"']

mutual

/-- The compact text of a value, as characters. -/
def renderChars : Json → List Char
  | .null => ['n', 'u', 'l', 'l']
  | .bool true => ['t', 'r', 'u', 'e']
  | .bool false => ['f', 'a', 'l', 's', 'e']
  | .nat n => Nat.toDigits 10 n
  | .string s => renderString s
  | .array items => '[' :: renderItems items
  | .object members => '\x7b' :: renderMembers members

def renderItems : List Json → List Char
  | [] => [']']
  | [v] => renderChars v ++ [']']
  | v :: w :: rest => renderChars v ++ ',' :: renderItems (w :: rest)

def renderMembers : List (String × Json) → List Char
  | [] => ['\x7d']
  | [(k, v)] => renderString k ++ ':' :: renderChars v ++ ['\x7d']
  | (k, v) :: m :: rest => renderString k ++ ':' :: renderChars v ++ ',' :: renderMembers (m :: rest)

end

/-- The compact text of a value. -/
def render (v : Json) : String := String.ofList v.renderChars

def ofOption {α : Type} (f : α → Json) : Option α → Json
  | none => .null
  | some a => f a

end Json

end FirmwareCatalog
