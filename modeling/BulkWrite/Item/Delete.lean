import BulkWrite.Decode.Choice
import BulkWrite.Decode.Record
import BulkWrite.Item.Basic

/-!
# Filtered deletes

A filtered delete removes all objects of a class that a free condition selects.
-/

namespace BulkWrite

inductive DeleteOutput where
  | minimal
  | verbose
deriving DecidableEq, Repr, Inhabited

namespace DeleteOutput

def vocabulary : Vocabulary DeleteOutput :=
  ⟨"DeleteOutput", [("minimal", .minimal), ("verbose", .verbose)]⟩

def name : DeleteOutput → String
  | .minimal => "minimal"
  | .verbose => "verbose"

end DeleteOutput

structure DeleteItem where
  id : String
  className : String
  /-- The condition; its form is a matter of the store. -/
  filter : Json
  /-- Whether the store only counts what it would remove. -/
  dryRun : Bool := false
  output : DeleteOutput := .minimal
  tenant : Option String := none
deriving Repr, Inhabited

namespace DeleteItem

instance : Item DeleteItem := ⟨DeleteItem.id⟩

/-- The document of a delete. -/
def toJson (d : DeleteItem) : Json :=
  .present [("id", some (.text d.id)), ("class", some (.text d.className)),
    ("filter", some d.filter), ("dry_run", some (.bool d.dryRun)),
    ("output", some (.text d.output.name)), ("tenant", d.tenant.map .text)]

/-- A filtered delete. -/
def decoder : Decoder DeleteItem :=
  Fields.record "DeleteFilter" <|
    DeleteItem.mk <$> .required "id" Decoder.text
      <*> .required "class" Decoder.text
      <*> .required "filter" Decoder.value
      <*> .absentAs "dry_run" false Decoder.bool
      <*> .absentAs "output" .minimal DeleteOutput.vocabulary.decoder
      <*> .optional "tenant" Decoder.text

end DeleteItem

end BulkWrite
