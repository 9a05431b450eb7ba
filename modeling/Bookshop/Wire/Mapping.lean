import Bookshop.Wire.Codec

/-!
# Mappings

A mapping whose names may be anything. It has a document only if every name is a text.
-/

namespace Bookshop

inductive MappingName where
  | text (name : String)
  | other (value : Json)

abbrev Mapping := List (MappingName × Json)

/-- The members of the record that a mapping is written as. -/
def Mapping.members : Mapping → Except EncodeError (List Member)
  | [] => .ok []
  | (.text name, value) :: rest =>
    match Mapping.members rest with
    | .error e => .error e
    | .ok members => .ok ((Quoted.ofText name, value) :: members)
  | (.other _, _) :: _ => .error .nameNotText

def Mapping.write (mapping : Mapping) : Except EncodeError Bytes :=
  match mapping.members with
  | .error e => .error e
  | .ok members => .ok (Json.record members true).spell

end Bookshop
