import Deckwright.Dump.Printing
set_option autoImplicit false

namespace Deckwright

inductive MissingData where
  | topLevel
  | data
deriving DecidableEq

namespace MissingData

def message : MissingData → String
  | .topLevel => "inventory data missing: top level is not an object"
  | .data => "inventory data missing: no \"data\" object"

end MissingData

structure Dump where
  form : DumpForm
  sets : List (String × Json)

namespace Dump

def ofSets (form : DumpForm) (sets : Fields) : Dump := ⟨form, Json.mapping sets⟩

def ofJson (root : Json) : Except MissingData Dump :=
  match Fields.ofJson? root with
  | none => .error .topLevel
  | some fields =>
    match fields.get? "meta" with
    | none => .ok (ofSets .bare fields)
    | some _ =>
      match (fields.get? "data").bind Fields.ofJson? with
      | none => .error .data
      | some sets => .ok (ofSets .wrapped sets)

def expansionOf (key : String) (set : Fields) : Expansion where
  name := (set.text? "name").getD key
  block := (set.text? "block").getD noBlock
  code := (set.text? "code").getD key
  releaseDate := set.textD "releaseDate"

end Dump

/-- What a dump holds at one place: a set, or a card of the set before it. Either may
    not be a record at all. -/
inductive DumpItem where
  | strangeSet (key : String)
  | set (e : Expansion)
  | strangeCard
  | card (e : Expansion) (fields : Fields)

namespace DumpItem

def ofCard (e : Expansion) (card : Json) : DumpItem :=
  match Fields.ofJson? card with
  | some fields => .card e fields
  | none => .strangeCard

def ofSet (key : String) (set : Json) : List DumpItem :=
  match Fields.ofJson? set with
  | none => [.strangeSet key]
  | some fields =>
    let e := Dump.expansionOf key fields
    let cards := ((fields.get? "cards").bind Json.items?).getD []
    .set e :: cards.map (ofCard e)

end DumpItem

def Dump.items (d : Dump) : List DumpItem := d.sets.flatMap fun entry => DumpItem.ofSet entry.1 entry.2

end Deckwright
