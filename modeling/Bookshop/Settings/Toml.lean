import Bookshop.Settings.Basic
import Bookshop.Toml.Document

/-!
# Settings in TOML

The settings as tables of which every entry may be left out; entries with other names count for
nothing. As in JSON, a list may stand for a table, with the values of its entries in their order.
-/

namespace Bookshop

/-! ### Records -/

namespace Toml

def asText? : Toml → Option String
  | .text value => some value
  | _ => none

/-- A named choice: its name, or a table with that name alone and nothing in it. -/
def asChoice? (choices : List (String × α)) : Toml → Option α
  | .text name => choices.lookup name
  | .table _ [(name, .table _ [])] => choices.lookup name
  | .table _ [(name, .list [])] => choices.lookup name
  | _ => none

/-- What a value has for the fields of a record, each with its position and its name: a table has
    entries by name, a list has items by position, and a date has nothing. -/
def asRecord? : Toml → Option (Nat → String → Option Toml)
  | .table _ entries => some fun _ name => find? name entries
  | .list items => some fun position _ => items[position]?
  | .tables elements => some fun position _ => elements[position]?.map (.table .header)
  | .dateTime _ => some fun _ _ => none
  | _ => none

def field? (record : Nat → String → Option Toml) (position : Nat) (name : String)
    (read : Toml → Option α) (default : α) : Option α :=
  match record position name with
  | some value => read value
  | none => some default

end Toml

/-! ### Settings -/

open Toml (asChoice? asText? field?)

def StorageSettings.ofToml? (value : Toml) : Option StorageSettings := do
  let record ← value.asRecord?
  let kind ← field? record 0 "kind" (asChoice? StorageKind.names) standard.kind
  let dir ← field? record 1 "dir" asText? standard.dir
  let cartKey ← field? record 2 "cart_key" asText? standard.cartKey
  pure { kind, dir, cartKey }

def LogSettings.ofToml? (value : Toml) : Option LogSettings := do
  let record ← value.asRecord?
  let level ← field? record 0 "level" asText? standard.level
  let format ← field? record 1 "format" (asChoice? LogFormat.names) standard.format
  pure { level, format }

def Settings.ofToml? (value : Toml) : Option Settings := do
  let record ← value.asRecord?
  let apiBaseUrl ← field? record 0 "api_base_url" asText? standard.apiBaseUrl
  let storage ← field? record 1 "storage" StorageSettings.ofToml? standard.storage
  let logging ← field? record 2 "logging" LogSettings.ofToml? standard.logging
  pure { apiBaseUrl, storage, logging }

end Bookshop
