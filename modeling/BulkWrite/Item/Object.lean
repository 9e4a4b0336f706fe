import BulkWrite.Decode.Record
import BulkWrite.Item.Basic

/-!
# Objects

An object is inserted with its class, its free properties, and perhaps a tenant and a vector.
-/

namespace BulkWrite

structure ObjectItem where
  id : String
  className : String
  /-- The properties, ascending by name. -/
  properties : List (String × Json) := []
  tenant : Option String := none
  /-- Numbers of the 32-bit format. -/
  vector : Option (List Binary) := none
deriving Repr, Inhabited

namespace ObjectItem

instance : Item ObjectItem := ⟨ObjectItem.id⟩

/-- The object with one more property, or with another value for it. -/
def withProperty (o : ObjectItem) (name : String) (value : Json) : ObjectItem :=
  { o with properties := Json.insert name value o.properties }

def toJson (o : ObjectItem) : Json :=
  .present [("id", some (.text o.id)), ("class", some (.text o.className)),
    ("properties", some (.object o.properties)), ("tenant", o.tenant.map .text),
    ("vector", o.vector.map fun xs => .array (xs.map fun x => .number (.single x)))]

def decoder : Decoder ObjectItem :=
  Fields.record "ObjectRecord" <|
    ObjectItem.mk <$> .required "id" Decoder.text
      <*> .required "class" Decoder.text
      <*> .absentAs "properties" [] Decoder.members
      <*> .optional "tenant" Decoder.text
      <*> .optional "vector" (Decoder.list Decoder.single)

end ObjectItem

end BulkWrite
