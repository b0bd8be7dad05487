/-
**Names of hosts.**

A host name is a sequence of labels with dots between them.  Names are compared in ASCII: every
character is mapped first, the result is composed, and each label that still has characters beyond
ASCII is written in Punycode after `xn--`.  A label that comes with `xn--` already has to be the
Punycode of a label that the mapping leaves as it is.

Labels may be empty or long, and hyphens may stand anywhere in them; that is for the name service to
decide.  Characters with a meaning in an address are refused wherever they come from.

Main definitions:

* `Domain.isRefused` — the ASCII characters that no host name may have;
* `Domain.label?` — a label as it is meant, checked;
* `Domain.toAscii?` — the ASCII form of a host name.
-/
import FirmwareCatalog.Url.Idna.Direction
import FirmwareCatalog.Url.Idna.Joining
import FirmwareCatalog.Url.Idna.Mapping
import FirmwareCatalog.Url.Punycode

set_option relaxedAutoImplicit false
set_option autoImplicit false

namespace FirmwareCatalog.Domain

/-- The ASCII characters that no host name may have. -/
def isRefused (c : Char) : Bool :=
  c.toNat ≤ 0x20 || c.toNat == 0x7F ||
    ['%', '#', '/', ':', '<', '>', '?', '@', '[', '\\', ']', '^', '|'].contains c

def isAscii (c : Char) : Bool := c.toNat < 0x80

def mark : List Char := ['x', 'n', '-', '-']

def mapped? (s : List Char) : Option (List Char) := do
  let cs ← s.mapM Idna.mapChar?
  some (Idna.normalize cs.flatten)

/-- A label with characters beyond ASCII is well formed: it does not begin with a mark, and its
joiners stand where they may. -/
def isWellFormed (label : List Char) : Bool :=
  !(label.head?.any Idna.isMark) && Idna.joinersInPlace label

/-- The label that the Punycode after `xn--` stands for.  It has characters beyond ASCII, and mapping
leaves it as it is. -/
def decoded? (punycode : List Char) : Option (List Char) := do
  let label ← Punycode.decode? punycode
  if label.all isAscii || !label.all Idna.isKept || Idna.normalize label != label ||
      !isWellFormed label then none
  else some label

/-- A mapped label as it is meant, checked. -/
def label? (label : List Char) : Option (List Char) :=
  if label.any isRefused then none
  else if mark.isPrefixOf label then
    let punycode := label.drop mark.length
    if punycode.isEmpty || !label.all isAscii then none else decoded? punycode
  else if label.all isAscii || isWellFormed label then some label
  else none

def renderLabel (label : List Char) : List Char :=
  if label.all isAscii then label else mark ++ Punycode.encode label

/-- The ASCII form of a host name. -/
def toAscii? (name : List Char) : Option (List Char) := do
  let s ← mapped? name
  let labels ← (Text.splitAt '.' s).mapM label?
  if labels.any Idna.runsBackward && !labels.all Idna.keepsDirection then none
  else some (['.'].intercalate (labels.map renderLabel))

end FirmwareCatalog.Domain
