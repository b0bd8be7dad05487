/-
**Logins.**

A user and a password that stand in an address are not sent as a part of it.  They are taken out and
sent beside it, as the texts that their percent encoding stands for.  A user that stands for no text is
left where it is, and a password that stands for none is taken for missing.

Main definitions:

* `Login` — a user, with a password if there is one;
* `Url.login?` — the login in an address, `Url.withoutLogin` — the address after it is taken out.
-/
import FirmwareCatalog.Url.Basic
import FirmwareCatalog.Url.Percent

set_option relaxedAutoImplicit false
set_option autoImplicit false

namespace FirmwareCatalog

/-- A user, with a password if there is one. -/
structure Login where
  name : String
  password : Option String
  deriving DecidableEq, Repr

namespace Authority

def passwordText? (a : Authority) : Option (List Char) :=
  if a.password.isEmpty then none else Utf8.decode? (Percent.decode a.password)

def login? (a : Authority) : Option Login :=
  match Utf8.decode? (Percent.decode a.user) with
  | none => none
  | some name =>
    if name.isEmpty && a.passwordText?.isNone then none
    else some ⟨String.ofList name, a.passwordText?.map String.ofList⟩

def withoutLogin (a : Authority) : Authority := { a with user := [], password := [] }

end Authority

namespace Url

/-- The login that stands in an address. -/
def login? (u : Url) : Option Login := u.authority.bind Authority.login?

/-- The address after the login is taken out. -/
def withoutLogin (u : Url) : Url := { u with authority := u.authority.map Authority.withoutLogin }

end Url

end FirmwareCatalog
