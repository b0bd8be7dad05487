/-
**How a catalog is reached.**

A transport says at which address a catalog is found, which certificates are trusted, how long an
answer may take, and how the client names itself.

Main definitions:

* `Duration` — a span of time;
* `Trust` — the certificates that are trusted;
* `Transport` — all of it, `Transport.standard` — the public catalog.
-/
import FirmwareCatalog.Files.Path

set_option relaxedAutoImplicit false
set_option autoImplicit false

namespace FirmwareCatalog

/-- A span of time, in nanoseconds. -/
structure Duration where
  nanoseconds : Nat
  deriving DecidableEq, Repr

namespace Duration

def ofSeconds (n : Nat) : Duration := ⟨n * 1000000000⟩

def ofMilliseconds (n : Nat) : Duration := ⟨n * 1000000⟩

def seconds (d : Duration) : Nat := d.nanoseconds / 1000000000

def subsecond (d : Duration) : Nat := d.nanoseconds % 1000000000

theorem ofSeconds_split (n : Nat) : (ofSeconds n).seconds = n ∧ (ofSeconds n).subsecond = 0 := by
  simp [ofSeconds, seconds, subsecond]

end Duration

/-- The certificates that are trusted. -/
inductive Trust where
  /-- Those of the system. -/
  | system
  /-- Those of the system and those of a file. -/
  | alsoFile (path : Path)
  deriving BEq, Repr

/-- How a catalog is reached. -/
structure Transport where
  baseUrl : String
  trust : Trust
  timeout : Duration
  userAgent : String
  deriving BEq, Repr

namespace Transport

def defaultBaseUrl : String := "https://api.ipsw.me/v4/"

/-- How many seconds an answer may take, unless said otherwise. -/
def defaultTimeout : UInt64 := 30

/-- How the client names itself, unless said otherwise. -/
def defaultUserAgent : String := "ipsw-api/0.1.0"

/-- The public catalog. -/
def standard : Transport :=
  ⟨defaultBaseUrl, .system, .ofSeconds defaultTimeout.toNat, defaultUserAgent⟩

def withBaseUrl (t : Transport) (url : String) : Transport := { t with baseUrl := url }

def withTimeout (t : Transport) (d : Duration) : Transport := { t with timeout := d }

end Transport

end FirmwareCatalog
