import Bookshop.Json.Reader
import Bookshop.Wire.Error

/-!
# Typed documents

A codec says how the values of a type are written as JSON and read back. Codecs of records are
built from the list of their fields, so what holds of every record (members in any order, foreign
members skipped, the first missing field named) is said once, here, and a type only lists its
fields. Reading follows the order of the document, so of two problems the earlier one is reported.
-/

namespace Bookshop

/-- How the values of a type are written and read. -/
structure Codec (α : Type) where
  encode : α → Json
  decode : Json → Except DecodeError α

namespace Codec

/-! ### Documents -/

def write (codec : Codec α) (value : α) : Bytes := (codec.encode value).spell

/-- The value of a document. The document must be well-formed to its end, which is asked last. -/
def read (codec : Codec α) (bytes : Bytes) : Except DecodeError α :=
  let document := Json.read bytes
  match codec.decode document.tree with
  | .error e => .error e
  | .ok value => if document.complete then .ok value else .error .malformed

/-! ### Simple values -/

def text : Codec String where
  encode := Json.text
  decode
    | .string raw =>
      match Quoted.toText? raw with
      | some text => .ok text
      | none => .error .malformed
    | _ => .error .mismatch

def word : Codec Int64 where
  encode := Json.word
  decode
    | .number numeral =>
      match numeral.toWord? with
      | some word => .ok word
      | none => .error .mismatch
    | _ => .error .mismatch

def bool : Codec Bool where
  encode := Json.bool
  decode
    | .bool value => .ok value
    | _ => .error .mismatch

/-- Doubles; those that are not finite are written as null and never read. -/
def double : Codec Binary64 where
  encode := Json.double
  decode
    | .number numeral =>
      match numeral.toBinary64? with
      | some x => .ok x
      | none => .error .malformed
    | _ => .error .mismatch

/-- Values that are written and read through another type, which may refuse some of its own. -/
def convert (codec : Codec α) (out : β → α) (of : α → Except DecodeError β) : Codec β where
  encode value := codec.encode (out value)
  decode json :=
    match codec.decode json with
    | .error e => .error e
    | .ok value => of value

/-! ### Optional values and lists -/

/-- Values that may be absent: null stands for none. -/
def optional (codec : Codec α) : Codec (Option α) where
  encode
    | none => .null
    | some value => codec.encode value
  decode
    | .null => .ok none
    | json =>
      match codec.decode json with
      | .error e => .error e
      | .ok value => .ok (some value)

def decodeItems (codec : Codec α) : List Json → Except DecodeError (List α)
  | [] => .ok []
  | item :: items =>
    match codec.decode item with
    | .error e => .error e
    | .ok value =>
      match decodeItems codec items with
      | .error e => .error e
      | .ok values => .ok (value :: values)

def list (codec : Codec α) : Codec (List α) where
  encode values := .list (values.map codec.encode) true
  decode
    | .list items closed =>
      match codec.decodeItems items with
      | .error e => .error e
      | .ok values => if closed then .ok values else .error .malformed
    | _ => .error .mismatch

/-! ### Choices -/

def choose (choices : List (String × α)) (raw : Bytes) : Except DecodeError α :=
  match Quoted.toText? raw with
  | none => .error .malformed
  | some name =>
    match choices.lookup name with
    | some value => .ok value
    | none => .error (.unknownChoice name (choices.map Prod.fst))

/-- One of a few named values. It is written as its name; it may also be read from a record whose
    one member has that name and the value null. -/
def choice [DecidableEq α] (choices : List (String × α)) : Codec α where
  encode value := Json.text (((choices.find? (·.2 = value)).map Prod.fst).getD "")
  decode
    | .string raw => choose choices raw
    | .record ((raw, content) :: others) closed =>
      match choose choices raw with
      | .error e => .error e
      | .ok value =>
        match content, others, closed with
        | .null, [], true => .ok value
        | .null, _, _ => .error .malformed
        | _, _, _ => .error .mismatch
    | _ => .error .mismatch

end Codec

/-! ### Records -/

/-- The fields of a record in order, each with its name, the value it has when it is left out (if
    it may be left out) and its codec. The first index is the type of the values of all fields, the
    second the type of the values found so far. -/
inductive Fields : Type → Type → Type 1 where
  | done : Fields Unit Unit
  | field {α ρ σ : Type} (name : String) (default? : Option α) (codec : Codec α)
      (rest : Fields ρ σ) : Fields (α × ρ) (Option α × σ)

namespace Fields

def names {ρ σ : Type} : Fields ρ σ → List String
  | .done => []
  | .field name _ _ rest => name :: rest.names

def none {ρ σ : Type} : Fields ρ σ → σ
  | .done => ()
  | .field _ _ _ rest => (Option.none, rest.none)

def members {ρ σ : Type} : Fields ρ σ → ρ → List Member
  | .done, () => []
  | .field name _ codec rest, (value, values) =>
    (Quoted.ofText name, codec.encode value) :: rest.members values

/-- Take note of one member. A field that was found before is a duplicate, whatever its value; a
    name that is no field's is passed over. -/
def note {ρ σ : Type} : Fields ρ σ → String → Json → σ → Except DecodeError σ
  | .done, _, _, () => .ok ()
  | .field name _ codec rest, key, json, (found, others) =>
    if key = name then
      match found with
      | some _ => .error (.duplicate name)
      | Option.none =>
        match codec.decode json with
        | .error e => .error e
        | .ok value => .ok (some value, others)
    else
      match rest.note key json others with
      | .error e => .error e
      | .ok others => .ok (found, others)

def noteAll {ρ σ : Type} (fields : Fields ρ σ) : List Member → σ → Except DecodeError σ
  | [], found => .ok found
  | (raw, json) :: members, found =>
    match Quoted.toText? raw with
    | Option.none => .error .malformed
    | some key =>
      match fields.note key json found with
      | .error e => .error e
      | .ok found => noteAll fields members found

/-- The values of all fields, with defaults for those left out; the first field in order that is
    left out and has no default is missing. -/
def complete {ρ σ : Type} : Fields ρ σ → σ → Except DecodeError ρ
  | .done, () => .ok ()
  | .field name default? _ rest, (found, others) =>
    match found.or default? with
    | Option.none => .error (.missing name)
    | some value =>
      match rest.complete others with
      | .error e => .error e
      | .ok values => .ok (value, values)

/-- The values of all fields from a list that has them in order, with defaults for those that the
    list is too short for. -/
def ofItems {ρ σ : Type} : Fields ρ σ → List Json → Bool → Except DecodeError ρ
  | .done, [], closed => if closed then .ok () else .error .malformed
  | .done, _ :: _, _ => .error .malformed
  | .field _ _ codec rest, item :: items, closed =>
    match codec.decode item with
    | .error e => .error e
    | .ok value =>
      match rest.ofItems items closed with
      | .error e => .error e
      | .ok values => .ok (value, values)
  | .field _ default? _ rest, [], closed =>
    match default? with
    | Option.none => .error .mismatch
    | some value =>
      match rest.ofItems [] closed with
      | .error e => .error e
      | .ok values => .ok (value, values)

end Fields

namespace Codec

/-- Records with the given fields. A record is written with all its members in order; it is read
    from its members in any order, or from a list of its values in order. -/
def record {ρ σ : Type} (fields : Fields ρ σ) (out : α → ρ) (of : ρ → α) : Codec α where
  encode value := .record (fields.members (out value)) true
  decode
    | .record members closed =>
      match fields.noteAll members fields.none with
      | .error e => .error e
      | .ok found =>
        if closed then
          match fields.complete found with
          | .error e => .error e
          | .ok values => .ok (of values)
        else .error .malformed
    | .list items closed =>
      match fields.ofItems items closed with
      | .error e => .error e
      | .ok values => .ok (of values)
    | _ => .error .mismatch

end Codec

end Bookshop
