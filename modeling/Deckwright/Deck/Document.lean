import Deckwright.Catalog.Inventory
import Deckwright.Deck.Basic
import Deckwright.Filter.Record
set_option autoImplicit false

namespace Deckwright

structure EntryRecord where
  id : CardId
  count : UInt32
deriving DecidableEq

structure DeckRecord where
  cards : List EntryRecord
  categories : List CategorySpec
deriving DecidableEq

structure DeckDocument where
  main : DeckRecord
  sideboard : DeckRecord
  notes : String
deriving DecidableEq

namespace DeckRecord

def empty : DeckRecord := ⟨[], []⟩

def addEntry (inventory : Inventory) (d : Deck) (r : EntryRecord) : Except DeckFault Deck :=
  match inventory.get? r.id with
  | none => .error (.unknownCard r.id)
  | some card =>
    if r.count = 0 then .error (.count r.id .noCopies)
    else
      match d.add card r.count with
      | (d, true) => .ok d
      | (_, false) => .error (.count r.id .tooMany)

def toDeck (inventory : Inventory) (r : DeckRecord) : Except DeckFault Deck :=
  match r.cards.foldlM (addEntry inventory) Deck.empty with
  | .error e => .error e
  | .ok d => r.categories.foldlM (fun d spec => (d.addCategory spec).map Prod.fst) d

end DeckRecord

def Deck.toRecord (d : Deck) : DeckRecord where
  cards := d.entries.map fun e => ⟨e.id, e.count⟩
  categories := d.categories.map Category.toSpec

def CategorySpec.toJson (c : CategorySpec) : Json :=
  .record [
    ("name", .text c.name),
    ("filter", c.filter.toJson),
    ("whitelist", .texts c.whitelist),
    ("blacklist", .texts c.blacklist),
    ("color", .text c.swatch.toText)]

def EntryRecord.toJson (e : EntryRecord) : Json :=
  .record [("id", .text e.id), ("count", .ofNat e.count.toNat)]

def DeckRecord.toJson (r : DeckRecord) : Json :=
  .record [
    ("cards", .list (r.cards.map EntryRecord.toJson)),
    ("categories", .list (r.categories.map CategorySpec.toJson))]

namespace CategorySpec

structure Parts where
  name : Option String := none
  filter : Option Filter := none
  whitelist : Option (List CardId) := none
  blacklist : Option (List CardId) := none
  swatch : Option Swatch := none

def reader : Json.Reader CategorySpec :=
  Json.Read.record
    [Json.Read.slot "name" Parts.name (fun p v => { p with name := some v }) Json.Read.text,
      Json.Read.slot "filter" Parts.filter (fun p v => { p with filter := some v }) Json.Read.filter,
      Json.Read.slot "whitelist" Parts.whitelist (fun p v => { p with whitelist := some v })
        (Json.Read.list Json.Read.text),
      Json.Read.slot "blacklist" Parts.blacklist (fun p v => { p with blacklist := some v })
        (Json.Read.list Json.Read.text),
      Json.Read.slot "color" Parts.swatch (fun p v => { p with swatch := some v }) Json.Read.swatch]
    {} fun _ p => do
      return ⟨← p.name, ← p.filter, p.whitelist.getD [], p.blacklist.getD [], p.swatch.getD Swatch.black⟩

def ofJsonText (s : List Char) : Except Json.Fault CategorySpec := Json.decode reader s

end CategorySpec

namespace EntryRecord

structure Parts where
  id : Option CardId := none
  count : Option UInt32 := none

def reader : Json.Reader EntryRecord :=
  Json.Read.record
    [Json.Read.slot "id" Parts.id (fun p v => { p with id := some v }) Json.Read.text,
      Json.Read.slot "count" Parts.count (fun p v => { p with count := some v }) Json.Read.word32]
    {} fun _ p => do return ⟨← p.id, ← p.count⟩

end EntryRecord

namespace DeckRecord

structure Parts where
  cards : Option (List EntryRecord) := none
  categories : Option (List CategorySpec) := none

def reader : Json.Reader DeckRecord :=
  Json.Read.record
    [Json.Read.slot "cards" Parts.cards (fun p v => { p with cards := some v })
        (Json.Read.list EntryRecord.reader),
      Json.Read.slot "categories" Parts.categories (fun p v => { p with categories := some v })
        (Json.Read.list CategorySpec.reader)]
    {} fun _ p => do return ⟨← p.cards, p.categories.getD []⟩

end DeckRecord

namespace DeckDocument

def toJson (doc : DeckDocument) : Json :=
  .record [
    ("main", doc.main.toJson),
    ("sideboard", doc.sideboard.toJson),
    ("notes", .text doc.notes)]

def toText (doc : DeckDocument) : String := doc.toJson.toIndentedText

structure Parts where
  main : Option DeckRecord := none
  sideboard : Option DeckRecord := none
  notes : Option String := none

def reader : Json.Reader DeckDocument :=
  Json.Read.record
    [Json.Read.slot "main" Parts.main (fun p v => { p with main := some v }) DeckRecord.reader,
      Json.Read.slot "sideboard" Parts.sideboard (fun p v => { p with sideboard := some v }) DeckRecord.reader,
      Json.Read.slot "notes" Parts.notes (fun p v => { p with notes := some v }) Json.Read.text]
    {} fun _ p => do return ⟨← p.main, p.sideboard.getD DeckRecord.empty, p.notes.getD ""⟩

def ofDecks (main sideboard : Deck) (notes : String) : DeckDocument :=
  ⟨main.toRecord, sideboard.toRecord, notes⟩

def ofOctets (s : Text.Octets) : Except DeckFault DeckDocument :=
  (Json.decodeOctets reader s).mapError DeckFault.json

def decks (inventory : Inventory) (doc : DeckDocument) : Except DeckFault (Deck × Deck) :=
  match doc.main.toDeck inventory with
  | .error e => .error e
  | .ok main => (doc.sideboard.toDeck inventory).map fun side => (main, side)

end DeckDocument

end Deckwright
