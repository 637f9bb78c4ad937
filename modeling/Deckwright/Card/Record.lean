import Deckwright.Card.Basic
import Deckwright.Json.Decoder
import Deckwright.Json.Printer
set_option autoImplicit false

namespace Deckwright

open Json

def ManaCost.toJson (c : ManaCost) : Json :=
  .record [("symbols", Json.texts (c.symbols.map ManaSymbol.name))]

def ColorSet.toJson (s : ColorSet) : Json := Json.ofNat s.mask.toNat

def Stat.toJson (s : Stat) : Json := .record [("text", .text s.text), ("value", Json.ofBinary64 s.value)]

def Expansion.toJson (e : Expansion) : Json :=
  .record [("name", .text e.name), ("block", .text e.block), ("code", .text e.code),
    ("release_date", .text e.releaseDate)]

def Face.toJson (f : Face) : Json :=
  .record [
    ("name", .text f.name),
    ("mana_cost", f.cost.toJson),
    ("colors", f.colors.toJson),
    ("supertypes", Json.texts f.supertypes.toList),
    ("types", Json.texts f.types.toList),
    ("subtypes", Json.texts f.subtypes.toList),
    ("type_line", .text f.typeLine),
    ("rules_text", .text f.rules),
    ("flavor_text", .text f.flavor),
    ("power", Json.ofOption Stat.toJson f.power),
    ("toughness", Json.ofOption Stat.toJson f.toughness),
    ("loyalty", Json.ofOption Stat.toJson f.loyalty),
    ("artist", .text f.artist),
    ("number", .text f.number),
    ("normalized_name", .text f.plainName),
    ("normalized_rules", .text f.plainRules),
    ("normalized_flavor", .text f.plainFlavor)]

def Card.toJson (c : Card) : Json :=
  .record [
    ("id", .text c.id),
    ("layout", .text c.layout.name),
    ("faces", .list (c.faces.map Face.toJson)),
    ("mana_value", Json.ofBinary64 c.manaValue),
    ("color_identity", c.identity.toJson),
    ("expansion", c.expansion.toJson),
    ("rarity", .text c.rarity.key),
    ("legality", .record (c.legality.entries.map fun e => (e.1, .text e.2.key))),
    ("multiverse_id", Json.ofOption (fun n => Json.ofNat n.toNat) c.multiverseId),
    ("is_land", .bool c.isLand),
    ("ignores_count_restriction", .bool c.anyNumber)]

def Rarity.ofKey? (s : String) : Option Rarity := Rarity.all.find? fun r => r.key = s

def Legality.ofKey? (s : String) : Option Legality := Legality.all.find? fun l => l.key = s

def Layout.ofName? (s : String) : Option Layout := Layout.all.find? fun l => l.name = s

def Json.Read.textSet : Reader (OrderedSet String) := fun levels d =>
  (Read.list Read.text levels d).map OrderedSet.ofList

def Json.Read.colorSet : Reader ColorSet := fun levels d =>
  (Read.natural 255 levels d).map fun n => ⟨UInt8.ofNat n⟩

structure ManaCostParts where
  symbols : Option (List String) := none

def Json.Read.manaCost : Reader ManaCost :=
  Read.record [Read.slot "symbols" ManaCostParts.symbols (fun p v => { p with symbols := some v }) (Read.list Read.text)]
    {} fun _ p => p.symbols.map fun names => ⟨names.map ManaSymbol.mk⟩

structure StatParts where
  text : Option String := none
  value : Option Binary64 := none

def Json.Read.stat : Reader Stat :=
  Read.record
    [Read.slot "text" StatParts.text (fun p v => { p with text := some v }) Read.text,
      Read.slot "value" StatParts.value (fun p v => { p with value := some v }) Read.binary64]
    {} fun _ p => do return ⟨← p.text, ← p.value⟩

structure ExpansionParts where
  name : Option String := none
  block : Option String := none
  code : Option String := none
  releaseDate : Option String := none

def Json.Read.expansion : Reader Expansion :=
  Read.record
    [Read.slot "name" ExpansionParts.name (fun p v => { p with name := some v }) Read.text,
      Read.slot "block" ExpansionParts.block (fun p v => { p with block := some v }) Read.text,
      Read.slot "code" ExpansionParts.code (fun p v => { p with code := some v }) Read.text,
      Read.slot "release_date" ExpansionParts.releaseDate (fun p v => { p with releaseDate := some v }) Read.text]
    {} fun _ p => do return ⟨← p.name, ← p.block, ← p.code, ← p.releaseDate⟩

-- An optional field may be left out of a record with keys, not of one without.
def Json.Read.orAbsent {α : Type} (byKeys : Bool) (found : Option (Option α)) : Option (Option α) :=
  match found with
  | some v => some v
  | none => if byKeys then some none else none

structure FaceParts where
  name : Option String := none
  cost : Option ManaCost := none
  colors : Option ColorSet := none
  supertypes : Option (OrderedSet String) := none
  types : Option (OrderedSet String) := none
  subtypes : Option (OrderedSet String) := none
  typeLine : Option String := none
  rules : Option String := none
  flavor : Option String := none
  power : Option (Option Stat) := none
  toughness : Option (Option Stat) := none
  loyalty : Option (Option Stat) := none
  artist : Option String := none
  number : Option String := none
  plainName : Option String := none
  plainRules : Option String := none
  plainFlavor : Option String := none

def FaceParts.face? (byKeys : Bool) (p : FaceParts) : Option Face := do
  return {
    name := ← p.name
    cost := ← p.cost
    colors := ← p.colors
    supertypes := ← p.supertypes
    types := ← p.types
    subtypes := ← p.subtypes
    typeLine := ← p.typeLine
    rules := ← p.rules
    flavor := ← p.flavor
    power := ← Read.orAbsent byKeys p.power
    toughness := ← Read.orAbsent byKeys p.toughness
    loyalty := ← Read.orAbsent byKeys p.loyalty
    artist := ← p.artist
    number := ← p.number
    plainName := ← p.plainName
    plainRules := ← p.plainRules
    plainFlavor := ← p.plainFlavor }

def Json.Read.face : Reader Face :=
  Read.record
    [Read.slot "name" FaceParts.name (fun p v => { p with name := some v }) Read.text,
      Read.slot "mana_cost" FaceParts.cost (fun p v => { p with cost := some v }) Read.manaCost,
      Read.slot "colors" FaceParts.colors (fun p v => { p with colors := some v }) Read.colorSet,
      Read.slot "supertypes" FaceParts.supertypes (fun p v => { p with supertypes := some v }) Read.textSet,
      Read.slot "types" FaceParts.types (fun p v => { p with types := some v }) Read.textSet,
      Read.slot "subtypes" FaceParts.subtypes (fun p v => { p with subtypes := some v }) Read.textSet,
      Read.slot "type_line" FaceParts.typeLine (fun p v => { p with typeLine := some v }) Read.text,
      Read.slot "rules_text" FaceParts.rules (fun p v => { p with rules := some v }) Read.text,
      Read.slot "flavor_text" FaceParts.flavor (fun p v => { p with flavor := some v }) Read.text,
      Read.slot "power" FaceParts.power (fun p v => { p with power := some v }) (Read.optional Read.stat),
      Read.slot "toughness" FaceParts.toughness (fun p v => { p with toughness := some v }) (Read.optional Read.stat),
      Read.slot "loyalty" FaceParts.loyalty (fun p v => { p with loyalty := some v }) (Read.optional Read.stat),
      Read.slot "artist" FaceParts.artist (fun p v => { p with artist := some v }) Read.text,
      Read.slot "number" FaceParts.number (fun p v => { p with number := some v }) Read.text,
      Read.slot "normalized_name" FaceParts.plainName (fun p v => { p with plainName := some v }) Read.text,
      Read.slot "normalized_rules" FaceParts.plainRules (fun p v => { p with plainRules := some v }) Read.text,
      Read.slot "normalized_flavor" FaceParts.plainFlavor (fun p v => { p with plainFlavor := some v }) Read.text]
    {} FaceParts.face?

structure CardParts where
  id : Option CardId := none
  layout : Option Layout := none
  faces : Option (List Face) := none
  manaValue : Option Binary64 := none
  identity : Option ColorSet := none
  expansion : Option Expansion := none
  rarity : Option Rarity := none
  legality : Option (OrderedMap String Legality) := none
  multiverseId : Option (Option UInt32) := none
  isLand : Option Bool := none
  anyNumber : Option Bool := none

def CardParts.card? (byKeys : Bool) (p : CardParts) : Option Card := do
  return {
    id := ← p.id
    layout := ← p.layout
    faces := ← p.faces
    manaValue := ← p.manaValue
    identity := ← p.identity
    expansion := ← p.expansion
    rarity := ← p.rarity
    legality := ← p.legality
    multiverseId := ← Read.orAbsent byKeys p.multiverseId
    isLand := ← p.isLand
    anyNumber := ← p.anyNumber }

def Json.Read.legalities : Reader (OrderedMap String Legality) := fun levels d =>
  (Read.entries (Read.named Legality.ofKey?) levels d).map OrderedMap.ofList

def Json.Read.card : Reader Card :=
  Read.record
    [Read.slot "id" CardParts.id (fun p v => { p with id := some v }) Read.text,
      Read.slot "layout" CardParts.layout (fun p v => { p with layout := some v }) (Read.named Layout.ofName?),
      Read.slot "faces" CardParts.faces (fun p v => { p with faces := some v }) (Read.list Read.face),
      Read.slot "mana_value" CardParts.manaValue (fun p v => { p with manaValue := some v }) Read.binary64,
      Read.slot "color_identity" CardParts.identity (fun p v => { p with identity := some v }) Read.colorSet,
      Read.slot "expansion" CardParts.expansion (fun p v => { p with expansion := some v }) Read.expansion,
      Read.slot "rarity" CardParts.rarity (fun p v => { p with rarity := some v }) (Read.named Rarity.ofKey?),
      Read.slot "legality" CardParts.legality (fun p v => { p with legality := some v }) Read.legalities,
      Read.slot "multiverse_id" CardParts.multiverseId (fun p v => { p with multiverseId := some v }) (Read.optional Read.word32),
      Read.slot "is_land" CardParts.isLand (fun p v => { p with isLand := some v }) Read.bool,
      Read.slot "ignores_count_restriction" CardParts.anyNumber (fun p v => { p with anyNumber := some v }) Read.bool]
    {} CardParts.card?

def Card.toJsonText (c : Card) : String := c.toJson.toText

def Card.ofJsonText (s : List Char) : Except Json.Fault Card := Json.decode Read.card s

end Deckwright
