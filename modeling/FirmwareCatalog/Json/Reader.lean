/-
**Reading a JSON text into a tree.**

The reader descends through the text once.  It takes the number of steps it may make as an
argument; a text never needs more than two steps for each of its characters, one into an array and
one into its first item, and `Json.read` gives it that many.

Main definitions:

* `Json.skipString`, `Json.textOf` — the end of a string, and its text;
* `Json.readNumber` — a number literal;
* `Json.readValue`, `Json.readItems`, `Json.readMembers` — the descent;
* `Json.read` — the tree of a text.
-/
import FirmwareCatalog.Json.Tree

set_option relaxedAutoImplicit false
set_option autoImplicit false

namespace FirmwareCatalog.Json

/-! ### Strings -/

/-- The value of a hexadecimal digit of either case. -/
def hexValue? (c : Char) : Option Nat :=
  if '0' ≤ c ∧ c ≤ '9' then some (c.toNat - '0'.toNat)
  else if 'a' ≤ c ∧ c ≤ 'f' then some (c.toNat - 'a'.toNat + 10)
  else if 'A' ≤ c ∧ c ≤ 'F' then some (c.toNat - 'A'.toNat + 10)
  else none

/-- The four digits of a hexadecimal escape.  Four bytes are taken before they are looked at, so a
shorter rest is the end of the text. -/
def hexEscape (s : List Char) : Except Fault Nat :=
  if Utf8.size (s.take 4) < 4 then .error ⟨.endInString, .before []⟩
  else
    match s with
    | a :: b :: c :: d :: _ =>
      match hexValue? a, hexValue? b, hexValue? c, hexValue? d with
      | some w, some x, some y, some z => .ok (w * 4096 + x * 256 + y * 16 + z)
      | _, _, _, _ => .error ⟨.invalidEscape, ⟨s, 4⟩⟩
    | _ => .error ⟨.invalidEscape, ⟨s, 4⟩⟩

/-- The character that a letter after a backslash stands for. -/
def shortEscape? (c : Char) : Option Char :=
  if c = '"' then some '"'
  else if c = '\\' then some '\\'
  else if c = '/' then some '/'
  else if c = 'b' then some (Char.ofNat 8)
  else if c = 'f' then some (Char.ofNat 12)
  else if c = 'n' then some '\n'
  else if c = 'r' then some '\r'
  else if c = 't' then some '\t'
  else none

/-- How many characters an escape takes after its backslash, in a string that nobody reads. -/
def escapeLength : List Char → Except Fault Nat
  | [] => .error ⟨.endInString, .before []⟩
  | e :: rest =>
    if e = 'u' then (hexEscape rest).map fun _ => 5
    else if (shortEscape? e).isSome then .ok 1
    else .error ⟨.invalidEscape, .onto (e :: rest)⟩

/-- The text after the closing quote, for a string that nobody reads.  The first argument counts the
characters that belong to an escape before them. -/
def skipString : Nat → List Char → Except Fault (List Char)
  | _, [] => .error ⟨.endInString, .before []⟩
  | k + 1, _ :: rest => skipString k rest
  | 0, c :: rest =>
    if c = '"' then .ok rest
    else if c = '\\' then
      match escapeLength rest with
      | .ok k => skipString k rest
      | .error fault => .error fault
    else if c.toNat < 0x20 then .error ⟨.controlCharacter, .before (c :: rest)⟩
    else skipString 0 rest

/-- The character of a hexadecimal escape after its `u`, and how many characters the escape takes
from the `u` on.  A leading surrogate needs a second escape right behind it. -/
def unicodeEscape (s : List Char) : Except Fault (Char × Nat) := do
  let n ← hexEscape s
  let rest := s.drop 4
  if 0xDC00 ≤ n ∧ n ≤ 0xDFFF then .error ⟨.loneSurrogate, .before rest⟩
  else if n < 0xD800 ∨ 0xDBFF < n then .ok (Char.ofNat n, 5)
  else
    match rest with
    | [] => .error ⟨.endInString, .before []⟩
    | '\\' :: [] => .error ⟨.endInString, .before []⟩
    | '\\' :: 'u' :: rest' =>
      let m ← hexEscape rest'
      if m < 0xDC00 ∨ 0xDFFF < m then .error ⟨.loneSurrogate, .before (rest'.drop 4)⟩
      else .ok (Char.ofNat (0x10000 + (n - 0xD800) * 0x400 + (m - 0xDC00)), 11)
    | '\\' :: other => .error ⟨.hexEscapeEnd, .onto other⟩
    | other => .error ⟨.hexEscapeEnd, .onto other⟩

/-- The character of an escape after its backslash, and how many characters the escape takes. -/
def escape : List Char → Except Fault (Char × Nat)
  | [] => .error ⟨.endInString, .before []⟩
  | e :: rest =>
    if e = 'u' then unicodeEscape rest
    else
      match shortEscape? e with
      | some d => .ok (d, 1)
      | none => .error ⟨.invalidEscape, .onto (e :: rest)⟩

/-- The characters of a string up to its closing quote.  The first argument counts the characters
that belong to an escape before them. -/
def textOf : Nat → List Char → Except Fault (List Char)
  | _, [] => .error ⟨.endInString, .before []⟩
  | k + 1, _ :: rest => textOf k rest
  | 0, c :: rest =>
    if c = '"' then .ok []
    else if c = '\\' then
      match escape rest with
      | .ok (d, k) => (textOf k rest).map (d :: ·)
      | .error fault => .error fault
    else if c.toNat < 0x20 then .error ⟨.controlCharacter, .onto (c :: rest)⟩
    else (textOf 0 rest).map (c :: ·)

def readString (s : List Char) : StringToken := ⟨(textOf 0 s).map String.ofList, skipString 0 s⟩

/-! ### Numbers -/

def isDigit (c : Char) : Bool := '0' ≤ c && c ≤ '9'

/-- The exponent after its `e`, or the text at which it stops short. -/
def readExponent (s : List Char) : Except (List Char) (Exponent × List Char) :=
  let (negative, rest) : Bool × List Char := match s with
    | '+' :: r => (false, r)
    | '-' :: r => (true, r)
    | r => (false, r)
  let ds := rest.takeWhile isDigit
  if ds.isEmpty then .error rest else .ok (⟨negative, ds, rest⟩, rest.dropWhile isDigit)

/-- The rest of a literal after its whole part. -/
def readScale (negative : Bool) (whole : List Char) (fraction : Option (List Char))
    (s : List Char) : Node :=
  let withExponent (r : List Char) : Node :=
    match readExponent r with
    | .ok (e, after) => .number ⟨negative, whole, fraction, some e, after⟩
    | .error rest => .badNumber rest
  match s with
  | 'e' :: r => withExponent r
  | 'E' :: r => withExponent r
  | _ => .number ⟨negative, whole, fraction, none, s⟩

/-- The rest of a literal after its whole part, which may start with a fraction. -/
def readFraction (negative : Bool) (whole : List Char) (s : List Char) : Node :=
  match s with
  | '.' :: r =>
    let ds := r.takeWhile isDigit
    if ds.isEmpty then .badNumber r else readScale negative whole (some ds) (r.dropWhile isDigit)
  | _ => readScale negative whole none s

/-- The literal after its sign. -/
def readNumber (negative : Bool) (s : List Char) : Node :=
  match s with
  | '0' :: r =>
    match r with
    | d :: _ => if isDigit d then .badNumber r else readFraction negative ['0'] r
    | [] => readFraction negative ['0'] r
  | _ =>
    let ds := s.takeWhile isDigit
    if ds.isEmpty then .badNumber s else readFraction negative ds (s.dropWhile isDigit)

/-! ### Values -/

/-- The rest of a word such as `null` after its first letter. -/
def readWord (node : List Char → Node) : List Char → List Char → Node
  | [], s => node s
  | _ :: _, [] => .absent ⟨.endInValue, .before []⟩
  | w :: word, c :: rest =>
    if c = w then readWord node word rest else .absent ⟨.expectedIdent, .onto (c :: rest)⟩

mutual

/-- The value at the start of a text, after blanks. -/
def readValue : Nat → List Char → Node
  | 0, _ => .absent ⟨.endInValue, .before []⟩
  | n + 1, s =>
    match skipBlank s with
    | [] => .absent ⟨.endInValue, .before []⟩
    | c :: rest =>
      if c = 'n' then readWord .null ['u', 'l', 'l'] rest
      else if c = 't' then readWord (.bool true) ['r', 'u', 'e'] rest
      else if c = 'f' then readWord (.bool false) ['a', 'l', 's', 'e'] rest
      else if c = '"' then .string (readString rest)
      else if c = '-' then readNumber true rest
      else if isDigit c then readNumber false (c :: rest)
      else if c = '[' then
        .array (c :: rest) <|
          match skipBlank rest with
          | [] => .stop .ended
          | d :: r => if d = ']' then .close r else readItems n (d :: r)
      else if c = '\x7b' then
        .object (c :: rest) <|
          match skipBlank rest with
          | [] => .stop .ended
          | d :: r =>
            if d = '\x7d' then .close r
            else if d = '"' then readMembers n r
            else .stop (.keyless (d :: r))
      else .absent ⟨.expectedValue, .onto (c :: rest)⟩

/-- The items of an array, from the start of an item on. -/
def readItems : Nat → List Char → Items
  | 0, _ => .stop .ended
  | n + 1, s =>
    let head := readValue n s
    .cons s head <|
      match head.after? with
      | none => .stop .unread
      | some rest =>
        match skipBlank rest with
        | [] => .stop .ended
        | c :: r =>
          if c = ']' then .close r
          else if c = ',' then
            match skipBlank r with
            | [] => .stop .commaEnd
            | d :: r' => if d = ']' then .stop (.commaClose (d :: r')) else readItems n (d :: r')
          else .stop (.stray (c :: r))

/-- The members of an object, from the first character of a key on. -/
def readMembers : Nat → List Char → Members
  | 0, _ => .stop .ended
  | n + 1, s =>
    let key := readString s
    match key.after with
    | .error _ => .cut key
    | .ok rest =>
      match skipBlank rest with
      | [] => .cut key
      | c :: r =>
        if c = ':' then
          let value := readValue n r
          .cons key value <|
            match value.after? with
            | none => .stop .unread
            | some rest' =>
              match skipBlank rest' with
              | [] => .stop .ended
              | d :: r' =>
                if d = '\x7d' then .close r'
                else if d = ',' then
                  match skipBlank r' with
                  | [] => .stop .commaEnd
                  | e :: r'' =>
                    if e = '"' then readMembers n r''
                    else if e = '\x7d' then .stop (.commaClose (e :: r''))
                    else .stop (.commaStray (e :: r''))
                else .stop (.stray (d :: r'))
        else .cut key

end

/-- The tree of a text: the value at its start, after blanks. -/
def read (text : List Char) : Node := readValue (2 * text.length + 2) text

end FirmwareCatalog.Json
