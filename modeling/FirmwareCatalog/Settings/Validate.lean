/-
**Settings that make sense.**

A catalog can be reached only at an address of the web, and within at least one second.  Settings
that say so become a transport; a client without a name of its own takes the usual one.

Main definitions:

* `ApiSettings.checkBaseUrl`, `ApiSettings.checkTimeout` — the two checks, in their order;
* `Settings.transport` — the transport that settings describe.
-/
import FirmwareCatalog.Settings.Basic
import FirmwareCatalog.Settings.Error
import FirmwareCatalog.Url.Reader

set_option relaxedAutoImplicit false
set_option autoImplicit false

namespace FirmwareCatalog

namespace ApiSettings

/-- The base address is one of the web. -/
def checkBaseUrl (a : ApiSettings) : Except SettingsError Unit :=
  match Url.parse a.baseUrl with
  | .error fault =>
    .error (.invalid .baseUrl ("invalid URL '" ++ a.baseUrl ++ "': " ++ fault.message))
  | .ok u =>
    if u.isWeb then .ok ()
    else .error (.invalid .baseUrl ("expected an http(s) URL, got '" ++ a.baseUrl ++ "'"))

/-- The time limit leaves some time. -/
def checkTimeout (a : ApiSettings) : Except SettingsError Unit :=
  if a.timeout = 0 then .error (.invalid .timeout "must be at least 1 second") else .ok ()

def trust (a : ApiSettings) : Trust :=
  match a.certificates with
  | none => .system
  | some p => .alsoFile p

end ApiSettings

/-- The transport that settings describe. -/
def Settings.transport (s : Settings) : Except SettingsError Transport := do
  s.api.checkBaseUrl
  s.api.checkTimeout
  pure
    { baseUrl := s.api.baseUrl
      trust := s.api.trust
      timeout := .ofSeconds s.api.timeout.toNat
      userAgent := s.api.userAgent.getD Transport.defaultUserAgent }

end FirmwareCatalog
