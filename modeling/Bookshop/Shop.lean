import Bookshop.Checkout.Services
import Bookshop.Settings.File
import Bookshop.Storage.Premises

/-!
# Setting up a shop

A shop is set up once from its settings: the place of its carts is opened, and a client is made for
its services. Every page of the shop works with the same saved cart and the same client.
-/

namespace Bookshop

/-- What the pages of a shop share. -/
structure Shop where
  place : Place
  cartKey : String
  client : Client
deriving DecidableEq, Repr

inductive SetupError where
  | settings (cause : SettingsError)
  | storage (cause : StorageError)
deriving DecidableEq, Repr

def SetupError.message : SetupError → String
  | .settings cause => cause.message
  | .storage _ => "Failed to open cart storage"

namespace Shop

/-- Open the place that the settings name; a path text is seen from the given folder. -/
def openPlace (settings : StorageSettings) (current : Location) (disk : FileSystem) :
    Except StorageError Place × FileSystem :=
  match settings.kind with
  | .memory => (.ok .memory, disk)
  | .file =>
    match FileSystem.openFolder settings.dir current disk with
    | (.ok location, disk) => (.ok (.folder location), disk)
    | (.error e, disk) => (.error e, disk)

def ofSettings (settings : Settings) (current : Location) (disk : FileSystem) :
    Except StorageError Shop × FileSystem :=
  match openPlace settings.storage current disk with
  | (.ok place, disk) =>
    (.ok ⟨place, settings.storage.cartKey, { baseUrl := some settings.apiBaseUrl }⟩, disk)
  | (.error e, disk) => (.error e, disk)

/-- The settings of a start: those of the file that is named, if one is, with what is given from
    outside. -/
def startSettings (file : Option (String × Option Bytes)) (lookup : String → Option String) :
    Except SettingsError Settings :=
  match file with
  | none => .ok (Settings.standard.override lookup)
  | some (name, content) =>
    match Settings.ofFile name content with
    | .ok settings => .ok (settings.override lookup)
    | .error e => .error e

def start (file : Option (String × Option Bytes)) (lookup : String → Option String)
    (current : Location) (disk : FileSystem) : Except SetupError Shop × FileSystem :=
  match startSettings file lookup with
  | .error e => (.error (.settings e), disk)
  | .ok settings =>
    match ofSettings settings current disk with
    | (.ok shop, disk) => (.ok shop, disk)
    | (.error e, disk) => (.error (.storage e), disk)

def saved (shop : Shop) : SavedCart Premises := ⟨shop.place.medium, shop.cartKey⟩

def services (shop : Shop) (transport : Transport τ) : Services τ :=
  .ofClient shop.client transport

end Shop

end Bookshop
