import BulkWrite.Decode.Record
import BulkWrite.Item.Basic

/-!
# References

A reference links a property of one object to another object. Both ends are named by their class and
identifier, and a *beacon* is such an end written as an address.
-/

namespace BulkWrite

structure Beacon where
  className : String
  id : String
deriving DecidableEq, Repr, Inhabited

namespace Beacon

/-- What every address starts with. -/
def scheme : String := "weaviate://localhost"

/-- The address of an end. -/
def address (b : Beacon) : String :=
  s!"{scheme}/{b.className}/{b.id}"

def toJson (b : Beacon) : Json :=
  .object [("class", .text b.className), ("id", .text b.id)]

def decoder : Decoder Beacon :=
  Fields.record "BeaconRef" <|
    Beacon.mk <$> .required "class" Decoder.text <*> .required "id" Decoder.text

end Beacon

structure ReferenceItem where
  id : String
  source : Beacon
  property : String
  target : Beacon
  tenant : Option String
deriving DecidableEq, Repr, Inhabited

namespace ReferenceItem

instance : Item ReferenceItem := ⟨ReferenceItem.id⟩

/-- The identifier of a reference between two ends. -/
def identifier (source : Beacon) (property : String) (target : Beacon) : String :=
  s!"{source.className}/{source.id}/{property}->{target.className}/{target.id}"

/-- The reference from a property of one object to another object. -/
def between (source : Beacon) (property : String) (target : Beacon) : ReferenceItem :=
  ⟨identifier source property target, source, property, target, none⟩

/-- The address of the property that refers. -/
def sourceAddress (r : ReferenceItem) : String :=
  s!"{r.source.address}/{r.property}"

/-- The address of the object that is referred to. -/
def targetAddress (r : ReferenceItem) : String :=
  r.target.address

def toJson (r : ReferenceItem) : Json :=
  .present [("id", some (.text r.id)), ("from", some r.source.toJson),
    ("property", some (.text r.property)), ("to", some r.target.toJson),
    ("tenant", r.tenant.map .text)]

def decoder : Decoder ReferenceItem :=
  Fields.record "ReferenceRecord" <|
    ReferenceItem.mk <$> .required "id" Decoder.text
      <*> .required "from" Beacon.decoder
      <*> .required "property" Decoder.text
      <*> .required "to" Beacon.decoder
      <*> .optional "tenant" Decoder.text

end ReferenceItem

end BulkWrite
