import Bookshop.Cart.Saved
import Bookshop.Text.Blank

/-!
# Settings of a shop

Where the services are, where carts are kept, and how the shop logs. Everything has a default, so a
shop runs without any settings at all. The address of the services may be given from outside, which
counts unless it is blank.
-/

namespace Bookshop

inductive StorageKind where
  | memory
  | file
deriving DecidableEq, Repr

inductive LogFormat where
  | json
  | human
deriving DecidableEq, Repr

structure StorageSettings where
  kind : StorageKind := .memory
  dir : String := ".bookstore"
  cartKey : String := SavedCart.defaultKey
deriving DecidableEq, Repr

structure LogSettings where
  level : String := "info"
  format : LogFormat := .human
deriving DecidableEq, Repr

structure Settings where
  apiBaseUrl : String := "http://localhost:8080"
  storage : StorageSettings := {}
  logging : LogSettings := {}
deriving DecidableEq, Repr

/-- Carts are kept in memory unless something else is said. -/
def StorageSettings.standard : StorageSettings := {}

def LogSettings.standard : LogSettings := {}

def Settings.standard : Settings := {}

def StorageKind.names : List (String × StorageKind) := [("memory", .memory), ("file", .file)]

def LogFormat.names : List (String × LogFormat) := [("json", .json), ("human", .human)]

namespace Settings

/-- The name of the variable that gives the address of the services from outside. -/
def baseUrlVariable : String := "BOOKSTORE_API_BASE_URL"

/-- The settings with what is given from outside: an address that is not blank replaces the one of
    the settings, and everything else stays. -/
def override (lookup : String → Option String) (settings : Settings) : Settings :=
  match lookup baseUrlVariable with
  | some url => if isBlank url then settings else { settings with apiBaseUrl := url }
  | none => settings

end Settings

end Bookshop
