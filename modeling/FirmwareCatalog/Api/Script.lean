/-
**Servers with a script.**

Two servers to try clients on: one that cannot be reached, and one that has a list of replies for
each of some addresses and gives them in turn.

Main definitions:

* `Server.unreachable` — no connection can be opened;
* `Script`, `Server.scripted` — the replies of a list in turn, the last one from then on.
-/
import FirmwareCatalog.Api.Server

set_option relaxedAutoImplicit false
set_option autoImplicit false

namespace FirmwareCatalog

/-- A server to which no connection can be opened. -/
def Server.unreachable : Server Unit := ⟨fun s _ => (.failure .refused, s)⟩

/-- The replies that are left for each address, in turn. -/
abbrev Script : Type := List (String × List Reply)

def Script.unknown : Reply := .answer ⟨404⟩ []

def Status.isBodiless (s : Status) : Bool := s.code == 204 || s.code == 304

def Reply.sent : Reply → Reply
  | .answer status body => .answer status (if status.isBodiless then [] else body)
  | .failure fault => .failure fault

/-- The replies left after the next one; the last one stays. -/
def Script.rest : List Reply → List Reply
  | [] => []
  | [r] => [r]
  | _ :: r :: rs => r :: rs

/-- The next reply for an address, and the script after it. -/
def Script.next (script : Script) (url : String) : Reply × Script :=
  match script.lookup url with
  | some (r :: rs) =>
    (r.sent, script.map fun entry =>
      if entry.1 == url then (entry.1, Script.rest (r :: rs)) else entry)
  | _ => (Script.unknown, script)

/-- A server that follows a script. -/
def Server.scripted : Server Script := ⟨fun script r => script.next r.url.render⟩

end FirmwareCatalog
