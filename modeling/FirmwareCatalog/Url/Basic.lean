/-
**Addresses.**

An address has a scheme, after it usually an authority — a host, perhaps with a user and a port — and
then a path, a query and a fragment.  All its parts are kept as they are written, with the characters
that may not stand there percent-encoded.

A path is a sequence of segments with a slash before each.  Where the scheme is followed neither by a
slash nor by an authority, the rest is no path but a text of its own, and nothing can be placed below
such an address.

Main definitions:

* `Host`, `Authority`, `UrlPath`, `Url` — addresses and their parts;
* `Scheme.isSpecial`, `Scheme.defaultPort?` — the schemes with rules of their own;
* `Url.render` — the text of an address, `Url.hostText?`, `Url.pathText` — texts of its parts.
-/
import FirmwareCatalog.Url.Address

set_option relaxedAutoImplicit false
set_option autoImplicit false

namespace FirmwareCatalog

/-! ### Schemes -/

namespace Scheme

def file : List Char := ['f', 'i', 'l', 'e']

def http : List Char := ['h', 't', 't', 'p']

def https : List Char := ['h', 't', 't', 'p', 's']

def defaultPorts : List (List Char × Nat) :=
  [(http, 80), (https, 443), (['w', 's'], 80), (['w', 's', 's'], 443), (['f', 't', 'p'], 21)]

/-- The port that an address of the scheme has by default. -/
def defaultPort? (scheme : List Char) : Option Nat := defaultPorts.lookup scheme

/-- Addresses of a special scheme have a host that is looked up by its name, and a path that is never
empty; a backslash separates like a slash. -/
def isSpecial (scheme : List Char) : Bool := scheme == file || (defaultPort? scheme).isSome

def isWeb (scheme : List Char) : Bool := scheme == http || scheme == https

end Scheme

/-! ### Parts -/

/-- A host: a name, a numeric address, or any text where the scheme does not say what hosts are. -/
inductive Host where
  | name (s : List Char)
  | ipv4 (a : Ipv4)
  | ipv6 (a : Ipv6)
  | text (s : List Char)
  deriving DecidableEq

/-- The text of a host. -/
def Host.render : Host → List Char
  | .name s => s
  | .ipv4 a => a.render
  | .ipv6 a => '[' :: a.render ++ [']']
  | .text s => s

/-- A host, who asks, and at which port. -/
structure Authority where
  user : List Char
  password : List Char
  host : Option Host
  port : Option Nat
  deriving DecidableEq

def Authority.credentials (a : Authority) : List Char :=
  if a.user.isEmpty && a.password.isEmpty then []
  else a.user ++ (if a.password.isEmpty then [] else ':' :: a.password) ++ ['@']

/-- The text of an authority. -/
def Authority.render (a : Authority) : List Char :=
  a.credentials ++ (a.host.map Host.render).getD [] ++
    (match a.port with
      | none => []
      | some n => ':' :: Nat.toDigits 10 n)

/-- What comes after the authority: segments, or a text of its own. -/
inductive UrlPath where
  | segments (ss : List (List Char))
  | bare (s : List Char)
  deriving DecidableEq

/-- The text of a path. -/
def UrlPath.render : UrlPath → List Char
  | .segments ss => ss.flatMap fun s => '/' :: s
  | .bare s => s

/-! ### Addresses -/

/-- An address. -/
structure Url where
  scheme : List Char
  authority : Option Authority
  /-- The path is set off by `/.`, so that two slashes at its start are not taken for an authority. -/
  setOff : Bool
  path : UrlPath
  query : Option (List Char)
  fragment : Option (List Char)
  deriving DecidableEq

namespace Url

/-- The text of a path. -/
def pathText (u : Url) : List Char := u.path.render

/-- The text of the host. -/
def hostText? (u : Url) : Option (List Char) := (u.authority.bind (·.host)).map Host.render

def isBare (u : Url) : Bool :=
  match u.path with
  | .segments _ => false
  | .bare _ => true

/-- The scheme is a special one. -/
def isSpecial (u : Url) : Bool := Scheme.isSpecial u.scheme

def isWeb (u : Url) : Bool := Scheme.isWeb u.scheme

def authorityText (u : Url) : List Char :=
  match u.authority with
  | some a => '/' :: '/' :: a.render
  | none => if u.setOff then ['/', '.'] else []

def renderChars (u : Url) : List Char :=
  u.scheme ++ ':' :: u.authorityText ++ u.pathText ++
    ((u.query.map fun q => '?' :: q).getD []) ++ ((u.fragment.map fun f => '#' :: f).getD [])

/-- The text of an address. -/
def render (u : Url) : String := String.ofList u.renderChars

end Url

end FirmwareCatalog
