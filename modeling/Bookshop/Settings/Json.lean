import Bookshop.Settings.Basic
import Bookshop.Wire.Codec

/-!
# Settings in JSON

The settings as records of which every member may be left out.
-/

namespace Bookshop

def StorageSettings.codec : Codec StorageSettings :=
  .record
    (.field "kind" (some StorageSettings.standard.kind) (.choice StorageKind.names) <|
      .field "dir" (some StorageSettings.standard.dir) .text <|
      .field "cart_key" (some StorageSettings.standard.cartKey) .text .done)
    (fun s => (s.kind, s.dir, s.cartKey, ()))
    fun (kind, dir, cartKey, ()) => { kind, dir, cartKey }

def LogSettings.codec : Codec LogSettings :=
  .record
    (.field "level" (some LogSettings.standard.level) .text <|
      .field "format" (some LogSettings.standard.format) (.choice LogFormat.names) .done)
    (fun s => (s.level, s.format, ()))
    fun (level, format, ()) => { level, format }

def Settings.codec : Codec Settings :=
  .record
    (.field "api_base_url" (some Settings.standard.apiBaseUrl) .text <|
      .field "storage" (some .standard) StorageSettings.codec <|
      .field "logging" (some .standard) LogSettings.codec .done)
    (fun s => (s.apiBaseUrl, s.storage, s.logging, ()))
    fun (apiBaseUrl, storage, logging, ()) => { apiBaseUrl, storage, logging }

end Bookshop
