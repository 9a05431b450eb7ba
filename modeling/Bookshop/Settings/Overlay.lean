import Bookshop.Settings.File
import Bookshop.Toml.Printer

/-!
# Partial settings

Settings of which each may be given or not. They are laid over complete settings, and written as a
file in either of the two formats, with nothing in it but what is given.
-/

namespace Bookshop

/-- Settings of which some are given. -/
structure Overlay where
  apiBaseUrl : Option String := none
  kind : Option StorageKind := none
  dir : Option String := none
  cartKey : Option String := none
  level : Option String := none
  format : Option LogFormat := none
deriving DecidableEq, Repr

def StorageKind.name : StorageKind → String
  | .memory => "memory"
  | .file => "file"

def LogFormat.name : LogFormat → String
  | .json => "json"
  | .human => "human"

namespace Overlay

/-- The settings with those that are given in place of their own. -/
def onto (overlay : Overlay) (settings : Settings) : Settings where
  apiBaseUrl := overlay.apiBaseUrl.getD settings.apiBaseUrl
  storage :=
    { kind := overlay.kind.getD settings.storage.kind
      dir := overlay.dir.getD settings.storage.dir
      cartKey := overlay.cartKey.getD settings.storage.cartKey }
  logging :=
    { level := overlay.level.getD settings.logging.level
      format := overlay.format.getD settings.logging.format }

/-! ### Entries -/

def entry (name : String) (value : Option String) : List (String × String) :=
  (value.map fun text => (name, text)).toList

def general (overlay : Overlay) : List (String × String) :=
  entry "api_base_url" overlay.apiBaseUrl

def storage (overlay : Overlay) : List (String × String) :=
  entry "kind" (overlay.kind.map StorageKind.name) ++ entry "dir" overlay.dir ++
    entry "cart_key" overlay.cartKey

def logging (overlay : Overlay) : List (String × String) :=
  entry "level" overlay.level ++ entry "format" (overlay.format.map LogFormat.name)

/-! ### Files -/

def toToml (overlay : Overlay) : String :=
  String.ofList (Toml.writeEntries overlay.general ++ Toml.writeTable "storage" overlay.storage ++
    Toml.writeTable "logging" overlay.logging)

def members (entries : List (String × String)) : List Member :=
  entries.map fun (name, value) => (Quoted.ofText name, Json.text value)

/-- A group of settings as a member; one without entries is left out. -/
def group? (name : String) (entries : List (String × String)) : List Member :=
  if entries.isEmpty then [] else [(Quoted.ofText name, .record (members entries) true)]

def toJson (overlay : Overlay) : Json :=
  .record (members overlay.general ++ group? "storage" overlay.storage ++
    group? "logging" overlay.logging) true

end Overlay

end Bookshop
