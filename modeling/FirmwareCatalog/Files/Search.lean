/-
**Finding files.**

A file with an absolute path is where its path says.  One with a relative path is looked for in the
working directory first, then in the directory above it, and so on up to the top.

Main definitions:

* `Location.path` — the absolute path of a place;
* `Location.upwards` — a place and all places above it;
* `FileTree.find?` — the path at which a file is found.
-/
import FirmwareCatalog.Files.Tree

set_option relaxedAutoImplicit false
set_option autoImplicit false

namespace FirmwareCatalog

/-- The absolute path of a place. -/
def Location.path (l : Location) : Path := ⟨Path.slash :: [Path.slash].intercalate l⟩

/-- A place and all places above it, from below. -/
def Location.upwards (l : Location) : List Location :=
  (List.range (l.length + 1)).map fun n => l.take (l.length - n)

/-- The path at which a file is found. -/
def FileTree.find? (t : FileTree) (cwd : Location) (p : Path) : Option Path :=
  if p.isAbsolute then if t.isFile cwd p then some p else none
  else (((Location.upwards cwd).map fun l => (Location.path l).join p).find? (t.isFile cwd))

end FirmwareCatalog
