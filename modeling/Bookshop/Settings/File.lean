import Bookshop.Settings.Json
import Bookshop.Settings.Toml

/-!
# Files of settings

A file whose name ends in `.json` holds settings in JSON, every other one holds them in TOML. The
file must be there and be text.
-/

namespace Bookshop

inductive SettingsError where
  | unreadable (name : String)
  | malformedJson (name : String)
  | malformedToml (name : String)
deriving DecidableEq, Repr

def SettingsError.message : SettingsError → String
  | .unreadable name => "Failed to read config file: " ++ name
  | .malformedJson name => "Failed to parse JSON config: " ++ name
  | .malformedToml name => "Failed to parse TOML config: " ++ name

namespace Settings

def isJsonName (name : String) : Bool := ".json".toList.isSuffixOf name.toList

/-- The settings in a file of the given name, if it is there. -/
def ofFile (name : String) (content : Option Bytes) : Except SettingsError Settings :=
  match content with
  | none => .error (.unreadable name)
  | some bytes =>
    match Utf8.decode? bytes with
    | none => .error (.unreadable name)
    | some text =>
      if isJsonName name then
        match codec.read bytes with
        | .ok settings => .ok settings
        | .error _ => .error (.malformedJson name)
      else
        match (Toml.read? text).bind ofToml? with
        | some settings => .ok settings
        | none => .error (.malformedToml name)

end Settings

end Bookshop
