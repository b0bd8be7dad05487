/-
**Base addresses.**

A base address is one that others are placed below.  It has no query and no fragment, and its path
ends in exactly one slash.  Only the segments before that slash are kept here, so that two addresses
which differ in slashes at their end have the same base.

A segment placed below a base is taken as it is: a slash, a question mark or a percent sign in it is
encoded.  Tabs and line ends in it are dropped.  One dot and two dots are not placed at all; but a
segment that turns into one or two dots only when tabs and line ends are dropped acts as such.

Main definitions:

* `BaseUrl` — base addresses, `BaseUrl.toUrl` — the address that one is;
* `BaseUrl.ofUrl?` — the base that an address makes;
* `BaseUrl.below` — the address of segments placed below a base.
-/
import FirmwareCatalog.Url.Reader

set_option relaxedAutoImplicit false
set_option autoImplicit false

namespace FirmwareCatalog

/-- A base address, by what stands before its path and the segments of the path before its last
slash. -/
structure BaseUrl where
  scheme : List Char
  authority : Option Authority
  setOff : Bool
  segments : List (List Char)
  deriving DecidableEq

namespace BaseUrl

/-! ### The address of a base -/

def withSegments (b : BaseUrl) (ss : List (List Char)) : Url :=
  ⟨b.scheme, b.authority, b.setOff, .segments ss, none, none⟩

/-- The address that a base is. -/
def toUrl (b : BaseUrl) : Url := b.withSegments (b.segments ++ [[]])

def render (b : BaseUrl) : String := b.toUrl.render

def trimEmpty (ss : List (List Char)) : List (List Char) :=
  (ss.reverse.dropWhile List.isEmpty).reverse

/-- The segments of a path that is written anew: a drive at the start of the path of a file has a
colon. -/
def nameDrive (scheme : List Char) : List (List Char) → List (List Char)
  | [] => []
  | s :: rest =>
    (if scheme == Scheme.file && Url.isDrive s then Url.driveName s else s) :: rest

/-- The base that an address makes, unless nothing can be placed below it. -/
def ofUrl? (u : Url) : Option BaseUrl :=
  match u.path with
  | .bare _ => none
  | .segments ss => some ⟨u.scheme, u.authority, u.setOff, nameDrive u.scheme (trimEmpty ss)⟩

/-! ### Addresses below a base -/

def segmentSet (scheme : List Char) : Char → Bool :=
  if Scheme.isSpecial scheme then Percent.specialSegment else Percent.segment

def encodeSegment (scheme s : List Char) : List Char :=
  Percent.encode (segmentSet scheme) (Url.withoutLayout s)

/-- The segments of a path after one more segment.  A path of nothing but one slash is filled before
it grows. -/
def push (scheme : List Char) (ss : List (List Char)) (s : List Char) : List (List Char) :=
  if s = ['.'] ∨ s = ['.', '.'] then ss
  else
    Url.place (scheme == Scheme.file) true (if ss = [[]] then [] else ss) (encodeSegment scheme s)

/-- The address of segments placed below a base. -/
def below (b : BaseUrl) (args : List (List Char)) : Url :=
  b.withSegments
    (args.foldl (push b.scheme) (if b.segments.isEmpty then [[]] else b.segments))

end BaseUrl

end FirmwareCatalog
