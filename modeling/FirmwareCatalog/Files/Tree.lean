/-
**A tree of files.**

Directories hold files and further directories.  A path is followed from the working directory, or
from the top if it is absolute, one step at a time; every step has to start in a directory, and two
dots lead to the directory above the one reached.

What the tree allows can still be refused by the system, for want of permission or of room, or because
something is broken.  What it refuses is part of the tree and does not change.  To write a file is to
open it, which makes it or empties it, and then to write its bytes; if these are refused from some point
on, the bytes before that are what the file holds.

Besides files there are devices and the like.  They can be read and written too, but do not give back
what was written.  Left out are those on which a program waits, links, a second name for a file, and
whatever else uses the files at the same time.

Main definitions:

* `FileTree` — which directories there are, which files with which bytes, and what is refused;
* `FileTree.locate` — the place that a path names, whether or not anything is there;
* `FileTree.read`, `FileTree.write`, `FileTree.makeDirectory`, `FileTree.makeDirectories` — what
  programs do with paths;
* `FileFailure` — why it cannot be done.
-/
import FirmwareCatalog.Files.Path

set_option relaxedAutoImplicit false
set_option autoImplicit false

namespace FirmwareCatalog

/-- Why something cannot be done with a path. -/
inductive FileFailure where
  | missing
  | exists
  | notDirectory
  | isDirectory
  | nameTooLong
  /-- The path has a NUL character in it. -/
  | nul
  /-- Anything else, by what the system says of it. -/
  | other (wording : String)
  deriving DecidableEq, Repr

/-- The wording of a failure, with the number that the system gives it. -/
def FileFailure.message : FileFailure → String
  | .missing => "No such file or directory (os error 2)"
  | .exists => "File exists (os error 17)"
  | .notDirectory => "Not a directory (os error 20)"
  | .isDirectory => "Is a directory (os error 21)"
  | .nameTooLong => "File name too long (os error 36)"
  | .nul => "file name contained an unexpected NUL byte"
  | .other wording => wording

/-- A place in a tree: the names on the way down to it. -/
abbrev Location : Type := List (List UInt8)

/-- What is at a place. -/
inductive FileEntry where
  | directory
  | file (bytes : List UInt8)
  /-- What takes all that is written to it, and gives bytes of its own.  It may count as a file. -/
  | special (isFile : Bool) (bytes : List UInt8)
  deriving DecidableEq, Repr

def FileEntry.countsAsFile : FileEntry → Bool
  | .directory => false
  | .file _ => true
  | .special isFile _ => isFile

def FileEntry.content : FileEntry → Except FileFailure (List UInt8)
  | .directory => .error .isDirectory
  | .file bytes => .ok bytes
  | .special _ bytes => .ok bytes

/-- What the system refuses at a place, and how. -/
structure Refusals where
  /-- To go on from a directory. -/
  enter : Option FileFailure := none
  /-- To read what is there. -/
  read : Option FileFailure := none
  /-- To make something there, or to open it for writing. -/
  change : Option FileFailure := none
  /-- To take more than the first so many bytes. -/
  limit : Option (Nat × FileFailure) := none
  deriving Repr

/-- Which directories there are, which files with which bytes, and what is refused. -/
structure FileTree where
  entries : List (Location × FileEntry)
  refusals : List (Location × Refusals) := []
  deriving Repr

namespace FileTree

/-! ### Places -/

def empty : FileTree := ⟨[], []⟩

def get? (t : FileTree) (l : Location) : Option FileEntry :=
  match l with
  | [] => some .directory
  | l => (t.entries.find? fun e => e.1 == l).map (·.2)

def refusalsAt (t : FileTree) (l : Location) : Refusals := (t.refusals.lookup l).getD {}

def put (t : FileTree) (l : Location) (e : FileEntry) : FileTree :=
  { t with entries := (l, e) :: t.entries.filter fun x => x.1 != l }

theorem get?_put_self (t : FileTree) {l : Location} (e : FileEntry) (h : l ≠ []) :
    (t.put l e).get? l = some e := by
  cases l with
  | nil => exact absurd rfl h
  | cons a r => simp [get?, put]

theorem get?_put_of_ne (t : FileTree) {l m : Location} (e : FileEntry) (h : m ≠ l) :
    (t.put l e).get? m = t.get? m := by
  cases m with
  | nil => rfl
  | cons a r =>
    simp only [get?, put]
    rw [List.find?_cons_of_neg (by simpa using fun hl => h hl.symm)]
    congr 1
    rw [List.find?_filter]
    congr 1
    funext x
    by_cases hx : x.1 = a :: r
    · simp [hx, h]
    · simp [hx]

/-! ### Following paths -/

/-- The place that a path names, from the place where its next step starts. -/
def follow (t : FileTree) : Location → List (List UInt8) → Except FileFailure Location
  | l, [] => .ok l
  | l, step :: rest =>
    match t.get? l with
    | none => .error .missing
    | some .directory =>
      match (t.refusalsAt l).enter with
      | some e => .error e
      | none =>
        if step = [Path.dot] then t.follow l rest
        else if step = [Path.dot, Path.dot] then t.follow l.dropLast rest
        else if 255 < step.length then .error .nameTooLong
        else t.follow (l ++ [step]) rest
    | some _ => .error .notDirectory

/-- The place that a path names; nothing has to be there. -/
def locate (t : FileTree) (cwd : Location) (p : Path) : Except FileFailure Location :=
  if p.bytes.contains 0 then .error .nul
  else if p.bytes.isEmpty then .error .missing
  else if 4096 ≤ p.bytes.length then .error .nameTooLong
  else
    t.follow (if p.isAbsolute then [] else cwd)
      ((Path.pieces p.bytes).filter fun piece => !piece.isEmpty)

/-- What is at a place, for a path that leads there.  With a slash at the end of the path it has to be a
directory. -/
def entryAt (t : FileTree) (l : Location) (p : Path) : Except FileFailure FileEntry :=
  match t.get? l with
  | none => .error .missing
  | some .directory => .ok .directory
  | some e => if p.endsInSlash then .error .notDirectory else .ok e

def lookup (t : FileTree) (cwd : Location) (p : Path) : Except FileFailure FileEntry :=
  (t.locate cwd p).bind fun l => t.entryAt l p

def isFile (t : FileTree) (cwd : Location) (p : Path) : Bool :=
  match t.lookup cwd p with
  | .ok e => e.countsAsFile
  | .error _ => false

def isDirectory (t : FileTree) (cwd : Location) (p : Path) : Bool :=
  match t.lookup cwd p with
  | .ok e => e == .directory
  | .error _ => false

/-! ### What programs do -/

/-- The bytes of a file. -/
def read (t : FileTree) (cwd : Location) (p : Path) : Except FileFailure (List UInt8) :=
  (t.locate cwd p).bind fun l =>
    (t.entryAt l p).bind fun e =>
      match (t.refusalsAt l).read with
      | some failure => .error failure
      | none => e.content

/-- The place that a path names, if it can be written there. -/
def target (t : FileTree) (cwd : Location) (p : Path) : Except FileFailure Location :=
  (t.locate cwd p).bind fun l =>
    if p.endsInSlash || t.get? l == some .directory then .error .isDirectory
    else
      match (t.refusalsAt l).change with
      | some failure => .error failure
      | none => .ok l

def fill (t : FileTree) (l : Location) (bytes : List UInt8) : FileTree :=
  match t.get? l with
  | some (.special _ _) => t
  | _ => t.put l (.file bytes)

def breaksOff? (t : FileTree) (l : Location) (bytes : List UInt8) : Option (Nat × FileFailure) :=
  (t.refusalsAt l).limit.filter fun limit => limit.1 < bytes.length

/-- Bytes are written to a file; it is made if there is none, but not the directory that it is in.  The
tree that is left is given also where this fails. -/
def write (t : FileTree) (cwd : Location) (p : Path) (bytes : List UInt8) :
    Except FileFailure Unit × FileTree :=
  match t.target cwd p with
  | .error e => (.error e, t)
  | .ok l =>
    match t.breaksOff? l bytes with
    | none => (.ok (), t.fill l bytes)
    | some (n, e) => (.error e, t.fill l (bytes.take n))

/-- The tree with one more directory. -/
def makeDirectory (t : FileTree) (cwd : Location) (p : Path) : Except FileFailure FileTree :=
  (t.locate cwd p).bind fun l =>
    if (t.get? l).isSome then .error .exists
    else
      match (t.refusalsAt l).change with
      | some failure => .error failure
      | none => .ok (t.put l .directory)

def settle (t : FileTree) (cwd : Location) (p : Path) :
    Except FileFailure FileTree → Except FileFailure Unit × FileTree
  | .ok t' => (.ok (), t')
  | .error e => (if t.isDirectory cwd p then .ok () else .error e, t)

/-- The directory with the given components, the last one first, and all directories on the way to
it.  The tree that is left is given also where this fails, for some of them may then be there. -/
def makeAll (t : FileTree) (cwd : Location) :
    List Path.Component → Except FileFailure Unit × FileTree
  | [] => (.ok (), t)
  | c :: above =>
    let p := Path.ofComponents (c :: above).reverse
    match t.makeDirectory cwd p with
    | .error .missing =>
      match t.makeAll cwd above with
      | (.error e, t') => (.error e, t')
      | (.ok (), t') => t'.settle cwd p (t'.makeDirectory cwd p)
    | attempt => t.settle cwd p attempt

/-- A directory and all directories on the way to it, as far as they can be made. -/
def makeDirectories (t : FileTree) (cwd : Location) (p : Path) :
    Except FileFailure Unit × FileTree :=
  t.makeAll cwd p.components.reverse

def filesBelow (t : FileTree) (l : Location) : List Location :=
  t.entries.filterMap fun e =>
    if e.2.countsAsFile && l.isPrefixOf e.1 then some (e.1.drop l.length) else none

end FileTree

end FirmwareCatalog
