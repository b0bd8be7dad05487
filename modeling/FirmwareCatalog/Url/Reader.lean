/-
**Reading addresses.**

Blanks and control characters around an address are dropped, and tabs and line ends anywhere in it.
What follows the scheme depends on it: after a special one an authority comes with any number of
slashes before it, and after any other one only with two.  Segments of one dot lead nowhere, segments
of two dots lead up, and neither is kept.

A segment that names a drive, a letter with a colon or a bar, is not left by two dots.  At the start
of the path of a file it is written with a colon, and a host before it is dropped.

Main definitions:

* `UrlFault` — why a text is no address;
* `Url.place` — the segments after one more of them;
* `Url.parse` — the address that a text stands for.
-/
import FirmwareCatalog.Url.Basic
import FirmwareCatalog.Url.Domain
import FirmwareCatalog.Url.Percent

set_option relaxedAutoImplicit false
set_option autoImplicit false

namespace FirmwareCatalog

/-- Why a text is no address. -/
inductive UrlFault where
  | noScheme
  | emptyHost
  | invalidName
  | invalidPort
  | invalidIpv4
  | invalidIpv6
  | invalidHostCharacter
  /-- Any other reason, in its own words. -/
  | other (wording : String)
  deriving DecidableEq, Repr

/-- The wording of a fault. -/
def UrlFault.message : UrlFault → String
  | .noScheme => "relative URL without a base"
  | .emptyHost => "empty host"
  | .invalidName => "invalid international domain name"
  | .invalidPort => "invalid port number"
  | .invalidIpv4 => "invalid IPv4 address"
  | .invalidIpv6 => "invalid IPv6 address"
  | .invalidHostCharacter => "invalid domain character"
  | .other wording => wording

namespace Url

/-! ### The text to read -/

def isAround (c : Char) : Bool := c.toNat ≤ 0x20

def isLayout (c : Char) : Bool := c == '\t' || c == '\n' || c == '\r'

def withoutLayout (s : List Char) : List Char := s.filter fun c => !isLayout c

def cleaned (s : List Char) : List Char :=
  withoutLayout (((s.dropWhile isAround).reverse.dropWhile isAround).reverse)

/-! ### Schemes -/

def isLetter (c : Char) : Bool := c.isAlpha

def isSchemeChar (c : Char) : Bool := c.isAlphanum || c == '+' || c == '-' || c == '.'

/-- The scheme in lower case, and the text after its colon. -/
def scheme? (s : List Char) : Option (List Char × List Char) :=
  let name := s.takeWhile isSchemeChar
  match name, s.drop name.length with
  | c :: _, ':' :: rest => if isLetter c then some (name.map Char.toLower, rest) else none
  | _, _ => none

/-! ### Segments of paths -/

def isSlash (special : Bool) (c : Char) : Bool := c == '/' || (special && c == '\\')

def isDot (s : List Char) : Bool :=
  s == ['.'] || s.map Char.toLower == ['%', '2', 'e']

def isDotDot (s : List Char) : Bool :=
  [['.', '.'], ['.', '%', '2', 'e'], ['%', '2', 'e', '.'], ['%', '2', 'e', '%', '2', 'e']].contains
    (s.map Char.toLower)

def isDrive (s : List Char) : Bool :=
  match s with
  | [c, d] => isLetter c && (d == ':' || d == '|')
  | _ => false

/-- The segments without the last one, which two dots leave, unless that names a drive. -/
def up (ss : List (List Char)) : List (List Char) :=
  if ss.getLast?.any isDrive then ss else ss.dropLast

def driveName (s : List Char) : List Char := s.take 1 ++ [':']

/-- The segments after one more of them, which is the last one if nothing follows it. -/
def place (file last : Bool) (ss : List (List Char)) (s : List Char) : List (List Char) :=
  if isDotDot s then up ss ++ (if last then [[]] else [])
  else if isDot s then ss ++ (if last then [[]] else [])
  else if file && ss.isEmpty && isDrive s then [driveName s]
  else ss ++ [s]

def placeAll (file : Bool) (ss : List (List Char)) : List (List Char) → List (List Char)
  | [] => ss
  | [s] => place file true ss s
  | s :: t :: rest => placeAll file (place file false ss s) (t :: rest)

def splitSlashes (special : Bool) (s : List Char) : List (List Char) :=
  Text.splitWhere (isSlash special) s

/-- The segments of the path of a file: it starts with one slash only. -/
def withoutLeadingEmpty (ss : List (List Char)) : List (List Char) :=
  match ss with
  | [] => [[]]
  | [s] => [s]
  | [] :: t :: rest => withoutLeadingEmpty (t :: rest)
  | s :: rest => s :: rest

def placed (scheme : List Char) (s : List Char) : List (List Char) :=
  placeAll (scheme == Scheme.file) []
    ((splitSlashes (Scheme.isSpecial scheme) s).map (Percent.encode Percent.path))

def segmentsOf (scheme : List Char) (s : List Char) : List (List Char) :=
  if scheme == Scheme.file then withoutLeadingEmpty (placed scheme s) else placed scheme s

def withoutSlash (scheme : List Char) (s : List Char) : List Char :=
  match s with
  | [] => []
  | c :: rest => if isSlash (Scheme.isSpecial scheme) c then rest else c :: rest

def segmentsAfterHost (scheme : List Char) (s : List Char) : List (List Char) :=
  if s.isEmpty && !Scheme.isSpecial scheme then [] else segmentsOf scheme (withoutSlash scheme s)

def startsWithDrive (s : List Char) : Bool :=
  (placed Scheme.file (withoutSlash Scheme.file s)).head?.any isDrive

/-! ### Hosts -/

def isRefusedInText (c : Char) : Bool :=
  [Char.ofNat 0, '\t', '\n', '\r', ' ', '#', '/', ':', '<', '>', '?', '@', '[', '\\', ']', '^',
    '|'].contains c

/-- An address in brackets. -/
def bracketed (s : List Char) : Except UrlFault Host :=
  match s.getLast? with
  | some ']' =>
    match Ipv6.parse? (s.drop 1).dropLast with
    | some a => .ok (.ipv6 a)
    | none => .error .invalidIpv6
  | _ => .error .invalidIpv6

/-- A host that is looked up by its name. -/
def namedHost (s : List Char) : Except UrlFault Host :=
  if s.head? = some '[' then bracketed s
  else
    match Domain.toAscii? (Utf8.decodeLossy (Percent.decode s)) with
    | none => .error .invalidName
    | some name =>
      if name.isEmpty then .error .emptyHost
      else if Ipv4.isMeant name then
        match Ipv4.parse? name with
        | some a => .ok (.ipv4 a)
        | none => .error .invalidIpv4
      else .ok (.name name)

def textHost (s : List Char) : Except UrlFault Host :=
  if s.head? = some '[' then bracketed s
  else if s.any isRefusedInText then .error .invalidHostCharacter
  else .ok (.text (Percent.encode Percent.control s))

/-! ### Authorities -/

def untilPath (special : Bool) (s : List Char) : List Char :=
  s.takeWhile fun c => !(isSlash special c || c == '?' || c == '#')

/-- How much of a text is host: a colon outside brackets ends it. -/
def hostLength : Bool → List Char → Nat
  | _, [] => 0
  | inside, c :: rest =>
    if c = ':' ∧ inside = false then 0
    else hostLength (if c = '[' then true else if c = ']' then false else inside) rest + 1

def splitUser (s : List Char) : Option (List Char × List Char) :=
  let after := (s.reverse.takeWhile (· ≠ '@')).reverse
  if after.length = s.length then none
  else some (s.take (s.length - after.length - 1), after)

def credentials (s : List Char) : List Char × List Char :=
  let user := s.takeWhile (· ≠ ':')
  (Percent.encode Percent.userinfo user, Percent.encode Percent.userinfo (s.drop (user.length + 1)))

/-- A port, and the text after it.  The port that the scheme has by default is not kept.  Only a
backslash may follow, where it does not end the authority. -/
def readPort (scheme : List Char) (s : List Char) : Except UrlFault (Option Nat × List Char) :=
  let ds := s.takeWhile Char.isDigit
  let rest := s.drop ds.length
  let n := (Text.ofDigits? 10 ds).getD 0
  if 65535 < n then .error .invalidPort
  else if rest.head?.any (· != '\\') then .error .invalidPort
  else if ds.isEmpty || Scheme.defaultPort? scheme == some n then .ok (none, rest)
  else .ok (some n, rest)

/-- An authority, and the text after it, from a text that ends where the path begins; `ended` says
that a path or a query or a fragment follows. -/
def readAuthority (scheme : List Char) (s : List Char) (ended : Bool) :
    Except UrlFault (Authority × List Char) := do
  let special := Scheme.isSpecial scheme
  let split := splitUser s
  let (before, after) := split.getD ([], s)
  if split.isSome && before.isEmpty && after.isEmpty && ended then throw .emptyHost
  let (user, password) := credentials before
  let n := hostLength false after
  let hostText := after.take n
  let rest := after.drop n
  if hostText.isEmpty then
    if special || !rest.isEmpty || !(user.isEmpty && password.isEmpty) then throw .emptyHost
    else pure (⟨user, password, none, none⟩, [])
  else
    let host ← if special then namedHost hostText else textHost hostText
    let (port, below) ← readPort scheme (rest.drop 1)
    pure (⟨user, password, some host, port⟩, below)

/-! ### Addresses -/

/-- The query and the fragment of the text after a path. -/
def queryAndFragment (scheme : List Char) (s : List Char) :
    Option (List Char) × Option (List Char) :=
  let set := if Scheme.isSpecial scheme then Percent.specialQuery else Percent.query
  let front := s.takeWhile (· ≠ '#')
  let back := s.drop front.length
  ((match front with
    | '?' :: q => some (Percent.encode set q)
    | _ => none),
   (match back with
    | '#' :: f => some (Percent.encode Percent.fragment f)
    | _ => none))

def splitPath (s : List Char) : List Char × List Char :=
  let p := s.takeWhile fun c => !(c == '?' || c == '#')
  (p, s.drop p.length)

/-- An address with an authority. -/
def withAuthority (scheme : List Char) (s : List Char) : Except UrlFault Url := do
  let front := untilPath (Scheme.isSpecial scheme) s
  let rest := s.drop front.length
  let (a, below) ← readAuthority scheme front (!rest.isEmpty)
  let (path, tail) := splitPath rest
  let (q, f) := queryAndFragment scheme tail
  pure ⟨scheme, some a, false, .segments (segmentsAfterHost scheme (below ++ path)), q, f⟩

def localHost : Host := .name ['l', 'o', 'c', 'a', 'l', 'h', 'o', 's', 't']

/-- An address of a file, from the text after the scheme. -/
def ofFile (s : List Char) : Except UrlFault Url := do
  let (path, tail) := splitPath s
  let (q, f) := queryAndFragment Scheme.file tail
  let build (host : Option Host) (ss : List (List Char)) : Url :=
    ⟨Scheme.file, some ⟨[], [], host, none⟩, false, .segments ss, q, f⟩
  match path with
  | a :: b :: rest =>
    if isSlash true a && isSlash true b then
      let hostText := untilPath true rest
      let below := rest.drop hostText.length
      if hostText.isEmpty || isDrive hostText then
        pure (build none (segmentsOf Scheme.file rest))
      else
        let host ← namedHost hostText
        if host = localHost then pure (build none (segmentsOf Scheme.file below))
        else
          pure (build (if startsWithDrive below then none else some host)
            (segmentsAfterHost Scheme.file below))
    else pure (build none (segmentsAfterHost Scheme.file path))
  | _ => pure (build none (segmentsAfterHost Scheme.file path))

/-- An address whose scheme is not special, from the text after the scheme. -/
def ofOther (scheme : List Char) (s : List Char) : Except UrlFault Url :=
  match s with
  | '/' :: '/' :: rest => withAuthority scheme rest
  | s =>
    let (path, tail) := splitPath s
    let (q, f) := queryAndFragment scheme tail
    match path with
    | '/' :: rest =>
      let ss := segmentsOf scheme rest
      .ok ⟨scheme, none, 1 < ss.length && ss.head? == some [], .segments ss, q, f⟩
    | _ => .ok ⟨scheme, none, false, .bare (Percent.encode Percent.control path), q, f⟩

/-- The address that a text stands for, given as characters. -/
def parseChars (s : List Char) : Except UrlFault Url :=
  match scheme? (cleaned s) with
  | none => .error .noScheme
  | some (scheme, rest) =>
    if scheme = Scheme.file then ofFile rest
    else if Scheme.isSpecial scheme then withAuthority scheme (rest.dropWhile (isSlash true))
    else ofOther scheme rest

/-- The address that a text stands for. -/
def parse (s : String) : Except UrlFault Url := parseChars s.toList

end Url

end FirmwareCatalog
