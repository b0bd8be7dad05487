/-
**Where a firmware is to be had.**

A record gives the address of a firmware as a text, which is only read when somebody asks for it.

Main definitions:

* `Firmware.address` — the address that the text stands for.
-/
import FirmwareCatalog.Catalog.Basic
import FirmwareCatalog.Url.Reader

set_option relaxedAutoImplicit false
set_option autoImplicit false

namespace FirmwareCatalog.Firmware

/-- The address of a firmware. -/
def address (fw : Firmware) : Except UrlFault Url := Url.parse fw.url

end FirmwareCatalog.Firmware
