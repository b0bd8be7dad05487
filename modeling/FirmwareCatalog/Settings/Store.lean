/-
**Loading and saving settings.**

Settings are put together from three layers: what holds by default, the settings file if there is
one, and the environment.  A file that is not there leaves its layer empty, and so does a path that
names something other than a file.

Settings are saved in a file, and the directories on the way to it are made first.  They stay also
where saving then fails.  If it fails while the text is being written, what has been written stays.

Main definitions:

* `Surroundings` — the files, the working directory and the environment;
* `Environment.settingsPath` — where settings are kept unless said otherwise;
* `Settings.load`, `Settings.loadOrDefault` — settings from their layers;
* `Settings.save` — settings into a file.
-/
import FirmwareCatalog.Files.Search
import FirmwareCatalog.Settings.Document
import FirmwareCatalog.Settings.Environment
import FirmwareCatalog.Settings.Extract
import FirmwareCatalog.Toml.Reader

set_option relaxedAutoImplicit false
set_option autoImplicit false

namespace FirmwareCatalog

/-- What loading and saving depend on. -/
structure Surroundings where
  files : FileTree
  cwd : Location
  environment : Environment
  deriving Repr

/-! ### Where settings are kept -/

namespace Environment

def unnamedHome : Path := .ofText "/root"

def home (e : Environment) : Path :=
  match e.get? "HOME" with
  | none => unnamedHome
  | some s => if s.isEmpty then unnamedHome else .ofText s

/-- The directory of all settings of the user.  A variable for it counts only if it names an absolute
path. -/
def settingsHome (e : Environment) : Path :=
  match e.get? "XDG_CONFIG_HOME" with
  | none => e.home.join (.ofText ".config")
  | some s =>
    if (Path.ofText s).isAbsolute then .ofText s else e.home.join (.ofText ".config")

/-- Where settings are kept unless said otherwise. -/
def settingsPath (e : Environment) : Path :=
  (e.settingsHome.join (.ofText "ipsw")).join (.ofText "config.toml")

end Environment

/-! ### Loading -/

namespace Settings

/-- What holds by default, as a layer. -/
def defaults : Datum :=
  let own : ApiSettings := {}
  let scalar (v : Scalar) : Datum := .scalar .defaults v
  .table .defaults
    [("api", .table .defaults
      [("base_url", scalar (.text own.baseUrl)), ("timeout", scalar (.unsigned own.timeout.toNat)),
       ("user_agent", scalar .unset), ("ca_cert", scalar .unset)])]

/-- The layer of a file with the given bytes. -/
def documentLayer (shown : Path) (bytes : List UInt8) : Except LayerFault Datum :=
  match Utf8.decode? bytes with
  | none => .error (.encoding shown)
  | some text =>
    match Toml.parse? text with
    | none => .error .unreadable
    | some t => .ok (.table (.file shown) (Datum.ofEntries (.file shown) t))

/-- The layer of a settings file.  Messages show its path from the working directory if that is
shorter. -/
def fileLayer (s : Surroundings) (p : Path) : Except LayerFault Datum :=
  match s.files.find? s.cwd p with
  | none => .ok (.table .defaults [])
  | some found =>
    let shown := found.shownFrom s.cwd.path
    match s.files.read s.cwd found with
    | .error failure => .error (.closed shown failure)
    | .ok bytes => documentLayer shown bytes

def layers (s : Surroundings) (p : Path) : Except LayerFault Datum :=
  (fileLayer s p).map fun file => s.environment.layer.covering (file.covering defaults)

/-- Settings with the file at the given path. -/
def load (s : Surroundings) (p : Path) : Except SettingsError Settings :=
  match layers s p >>= ofLayers with
  | .ok settings => .ok settings
  | .error fault => .error (.layer fault)

/-- The same; settings that cannot be loaded are the default ones. -/
def loadOrDefault (s : Surroundings) (p : Path) : Settings :=
  match load s p with
  | .ok settings => settings
  | .error _ => {}

/-! ### Saving -/

def makeRoom (s : Surroundings) (p : Path) : Except FileFailure Unit × FileTree :=
  match p.parent? with
  | none => (.ok (), s.files)
  | some d => s.files.makeDirectories s.cwd d

/-- The settings in a file, whose directory is there, and the files after that. -/
def write (settings : Settings) (files : FileTree) (cwd : Location) (p : Path) :
    Except SettingsError Unit × FileTree :=
  match settings.toToml with
  | .error reason => (.error (.unwritable reason), files)
  | .ok text =>
    match files.write cwd p (Utf8.encode text.toList) with
    | (.error e, left) => (.error (.file e), left)
    | (.ok (), left) => (.ok (), left)

/-- The settings in a file, and the surroundings after that. -/
def save (settings : Settings) (s : Surroundings) (p : Path) :
    Except SettingsError Unit × Surroundings :=
  match makeRoom s p with
  | (.error e, files) => (.error (.file e), { s with files := files })
  | (.ok (), files) =>
    match settings.write files s.cwd p with
    | (result, left) => (result, { s with files := left })

end Settings

end FirmwareCatalog
