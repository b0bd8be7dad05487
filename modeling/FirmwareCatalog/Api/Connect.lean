/-
**Clients for a transport.**

To set up a client, the file of further certificates is read first; then the name that the client
gives itself and the certificates have to be usable; and only then the base address is looked at.

Main definitions:

* `isHeaderText` — names that a client can give itself;
* `Client.ofTransport` — the client for a transport, among the files there are.
-/
import FirmwareCatalog.Api.Client
import FirmwareCatalog.Certificate.Shape
import FirmwareCatalog.Files.Tree
import FirmwareCatalog.Transport.Basic

set_option relaxedAutoImplicit false
set_option autoImplicit false

namespace FirmwareCatalog

/-- A text without control characters, except tabs. -/
def isHeaderText (s : String) : Bool :=
  s.toList.all fun c => c == '\t' || (0x20 ≤ c.toNat && c.toNat != 0x7F)

namespace Client

/-- The file of further certificates, if one is asked for. -/
def certificateFile (files : FileTree) (cwd : Location) :
    Trust → Except ApiError (Option (List UInt8))
  | .system => .ok none
  | .alsoFile path =>
    match files.read cwd path with
    | .ok bytes => .ok (some bytes)
    | .error e => .error (.tls ("failed to read CA cert: " ++ e.message))

/-- The client for a transport. -/
def ofTransport (files : FileTree) (cwd : Location) (t : Transport) : Except ApiError Client := do
  let file ← certificateFile files cwd t.trust
  if isHeaderText t.userAgent && file.all Certificate.areUsable then
    let base ← baseUrl? t.baseUrl
    pure ⟨base, some t.userAgent⟩
  else throw (.tls "failed to build HTTP client: builder error")

end Client

end FirmwareCatalog
