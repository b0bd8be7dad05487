/-
**Paths of files.**

A path is a sequence of bytes in which slashes separate names.  Usually the bytes are those of a text,
but the system does not ask for that.  A path that starts with a slash is absolute.  What a path names
is given by its components: repeated slashes count once, a slash at the end does not count, and neither
does a single dot, unless the path starts with it.  Two dots are kept, because the directory above
depends on what the files are.

Paths are equal when their components are, even if their bytes differ.

Main definitions:

* `Path` — bytes taken as a path, `Path.ofText`, `Path.text?` — paths that are texts;
* `Path.components` — what equality compares;
* `Path.join`, `Path.parent?` — going down and up;
* `Path.relativeTo`, `Path.shownFrom` — a path as seen from a directory.
-/
import FirmwareCatalog.Text.Pieces
import FirmwareCatalog.Text.Utf8

set_option relaxedAutoImplicit false
set_option autoImplicit false

namespace FirmwareCatalog

/-- Bytes taken as a path. -/
structure Path where
  bytes : List UInt8
  deriving Repr

namespace Path

/-! ### Texts -/

def ofText (s : String) : Path := ⟨Utf8.encode s.toList⟩

/-- The text that a path is, unless its bytes are none. -/
def text? (p : Path) : Option String := (Utf8.decode? p.bytes).map String.ofList

def display (p : Path) : String := String.ofList (Utf8.decodeLossy p.bytes)

/-! ### Components -/

def slash : UInt8 := 0x2F

def dot : UInt8 := 0x2E

/-- One step of a path. -/
inductive Component where
  | root
  | current
  | above
  | name (s : List UInt8)
  deriving DecidableEq, Repr

def pieces (s : List UInt8) : List (List UInt8) := Text.splitAt slash s

def component? (piece : List UInt8) : Option Component :=
  if piece = [] ∨ piece = [dot] then none
  else if piece = [dot, dot] then some .above
  else some (.name piece)

/-- The components of a path, by its first piece and the others. -/
def componentsOf (first : List UInt8) (rest : List (List UInt8)) : List Component :=
  if first = [] then
    if rest = [] then [] else .root :: rest.filterMap component?
  else if first = [dot] then .current :: rest.filterMap component?
  else (first :: rest).filterMap component?

def components (p : Path) : List Component :=
  match pieces p.bytes with
  | [] => []
  | first :: rest => componentsOf first rest

/-- Paths are equal when their components are. -/
instance : BEq Path := ⟨fun p q => p.components == q.components⟩

def isAbsolute (p : Path) : Bool := p.bytes.head? == some slash

def endsInSlash (p : Path) : Bool := p.bytes.getLast? == some slash

/-- What one component is written with. -/
def Component.bytes : Component → List UInt8
  | .root => []
  | .current => [dot]
  | .above => [dot, dot]
  | .name s => s

def ofComponents (cs : List Component) : Path :=
  match cs with
  | [.root] => ⟨[slash]⟩
  | cs => ⟨[slash].intercalate (cs.map Component.bytes)⟩

/-- A second path as seen from a first one. -/
def join (p q : Path) : Path :=
  if q.isAbsolute then q
  else if p.bytes.isEmpty || p.endsInSlash then ⟨p.bytes ++ q.bytes⟩
  else ⟨p.bytes ++ slash :: q.bytes⟩

/-- The components without the last one, if that leads somewhere. -/
def parentComponents? (cs : List Component) : Option (List Component) :=
  match cs.getLast? with
  | none => none
  | some .root => none
  | some _ => some cs.dropLast

/-- The path without its last component. -/
def parent? (p : Path) : Option Path := (parentComponents? p.components).map ofComponents

/-- The components of a path as seen from a directory: up to where they part, then down. -/
def relativeComponents : List Component → List Component → List Component
  | [], cs => cs
  | base, [] => base.map fun _ => .above
  | b :: base, c :: cs =>
    if b = c then relativeComponents base cs
    else (b :: base).map (fun _ => .above) ++ c :: cs

/-- An absolute path as seen from an absolute directory. -/
def relativeTo (p base : Path) : Path :=
  ofComponents (relativeComponents base.components p.components)

/-- The shorter of a path and its form as seen from a directory; the path itself if neither is. -/
def shownFrom (p base : Path) : Path :=
  let r := p.relativeTo base
  if r.components.length < p.components.length then r else p

end Path

end FirmwareCatalog
