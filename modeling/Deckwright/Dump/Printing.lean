import Deckwright.Card.Basic
import Deckwright.Json.Value
import Deckwright.Text.Natural
import Deckwright.Text.Utf8
set_option autoImplicit false

namespace Deckwright

/-- Dumps come wrapped, the sets under a data key beside a meta key, or bare. Wrapped
    ones keep the ids of a record under a key of their own. -/
inductive DumpForm where
  | wrapped
  | bare
deriving DecidableEq

abbrev Fields := List (String × Json)

namespace Fields

def ofJson? (j : Json) : Option Fields := j.fields?

def get? (fields : Fields) (key : String) : Option Json := Json.lookup key fields

def text? (fields : Fields) (key : String) : Option String := (fields.get? key).bind Json.text?

def textD (fields : Fields) (key : String) : String := (fields.text? key).getD ""

end Fields

inductive PrintingFault where
  | nameless
  | rarityless
  | misread (e : Misread)
  | notList (key : String)
  | notTexts (key : String)
  | legalityNotText (format : String)
deriving DecidableEq

namespace PrintingFault

def message : PrintingFault → String
  | .nameless => "missing name"
  | .rarityless => "missing rarity"
  | .misread e => e.message
  | .notList key => s!"\"{key}\" is not a list"
  | .notTexts key => s!"\"{key}\" has a non-string entry"
  | .legalityNotText format => s!"legality for {format} is not text"

end PrintingFault

structure Printing where
  id : Option CardId
  joinKey : Option String
  order : Nat
  layout : Layout
  face : Face
  rarity : Rarity
  identity : ColorSet
  manaValue : Option Binary64
  legality : List (String × Legality)
  multiverseId : Option UInt32
  expansion : Expansion
deriving DecidableEq

namespace Printing

def faceName? (card : Fields) : Option String := (card.text? "faceName").or (card.text? "name")

def readTexts (key : String) : List Json → Except PrintingFault (List String)
  | [] => .ok []
  | j :: rest =>
    match j.text? with
    | none => .error (.notTexts key)
    | some s => (readTexts key rest).map (s :: ·)

def textsOf (card : Fields) (key : String) : Except PrintingFault (List String) :=
  match card.get? key with
  | none | some .null => .ok []
  | some (.list items) => readTexts key items
  | some _ => .error (.notList key)

def readColors : List String → Except PrintingFault ColorSet
  | [] => .ok ColorSet.colorless
  | s :: rest =>
    match Color.read s with
    | .error e => .error (.misread e)
    | .ok c => (readColors rest).map (ColorSet.colorless.insert c).union

def colorsOf (card : Fields) (key : String) : Except PrintingFault ColorSet := do
  readColors (← textsOf card key)

def largestMultiverseId : Nat := 0xFFFFFFFF

def multiverseIdOf? : Json → Option UInt32
  | .integer n => if 0 ≤ n && n ≤ largestMultiverseId then some (UInt32.ofNat n.toNat) else none
  | .text s => (Text.readNatural largestMultiverseId s.toList).toOption.map UInt32.ofNat
  | _ => none

def idsOf? (form : DumpForm) (card : Fields) : Option Fields :=
  match form with
  | .wrapped => (card.get? "identifiers").bind Fields.ofJson?
  | .bare => some card

def multiverseId? (form : DumpForm) (card : Fields) : Option UInt32 :=
  ((idsOf? form card).bind fun ids => ids.get? "multiverseId").bind multiverseIdOf?

def scryfallId? (form : DumpForm) (card : Fields) : Option String :=
  (idsOf? form card).bind fun ids => ids.text? "scryfallId"

def readLegalities : List (String × Json) → Except PrintingFault (List (String × Legality))
  | [] => .ok []
  | (format, status) :: rest =>
    match status.text? with
    | none => .error (.legalityNotText format)
    | some s =>
      match Legality.read s with
      | .error e => .error (.misread e)
      | .ok l => (readLegalities rest).map ((Text.lowered format, l) :: ·)

def legalitiesOf (card : Fields) : Except PrintingFault (List (String × Legality)) :=
  readLegalities (Json.mapping (((card.get? "legalities").bind Fields.ofJson?).getD []))

def statOf? (card : Fields) (key : String) : Option Stat := (card.text? key).map Stat.ofText

def statsOf (card : Fields) : Option Stat × Option Stat :=
  match statOf? card "power", statOf? card "toughness" with
  | some p, some t => (some p, some t)
  | _, _ => (none, none)

-- Null stands for a loyalty of X, unlike no loyalty at all.
def loyaltyOf? (card : Fields) : Option Stat :=
  match card.get? "loyalty" with
  | some (.text s) => some (Stat.ofText s)
  | some .null => some (Stat.ofText "X")
  | _ => none

def faceOf (card : Fields) (name : String) : Except PrintingFault Face := do
  let cost ← (ManaCost.read (card.textD "manaCost")).mapError .misread
  let colors ← colorsOf card "colors"
  let supertypes ← textsOf card "supertypes"
  let types ← textsOf card "types"
  let subtypes ← textsOf card "subtypes"
  return { Face.ofName name with
    cost := cost
    colors := colors
    supertypes := .ofList supertypes
    types := .ofList types
    subtypes := .ofList subtypes
    typeLine := card.textD "type"
    rules := card.textD "text"
    flavor := card.textD "flavorText"
    artist := card.textD "artist"
    number := card.textD "number"
    power := (statsOf card).1
    toughness := (statsOf card).2
    loyalty := loyaltyOf? card }

def namesOf (form : DumpForm) (card : Fields) (name : String) : Except PrintingFault (List String) :=
  match form with
  | .wrapped =>
    let full := (card.text? "name").getD name
    .ok ((Text.splitAt Card.faceSeparator.toList full.toList).map String.ofList)
  | .bare => textsOf card "names"

def firstSide : Nat := 'a'.toNat

def orderOf (card : Fields) (names : List String) (name : String) : Nat :=
  match card.text? "side" with
  | some side => (((Text.toOctets side.toList).head?.map UInt8.toNat).getD firstSide) - firstSide
  | none => (names.idxOf? name).getD 0

-- The parts of a meld pair are cards of their own.
def joins (layout : Layout) : Bool := layout.isMultiFaced && layout ≠ .meld

def joinKeyOf (expansion : Expansion) (layout : Layout) (scryfall : Option String)
    (names : List String) : Option String :=
  if joins layout then
    let own := scryfall.or (if names.length > 1 then some (Card.faceSeparator.intercalate names) else none)
    own.map fun key => s!"{expansion.code}:{key}"
  else none

def manaValueOf? (card : Fields) : Option Binary64 :=
  ((card.get? "manaValue").or (card.get? "convertedManaCost")).bind Json.number?

def read (form : DumpForm) (expansion : Expansion) (card : Fields) : Except PrintingFault Printing := do
  let name ← (faceName? card).elim (.error .nameless) .ok
  let layout ← (Layout.read ((card.text? "layout").getD "normal")).mapError .misread
  let rarityText ← (card.text? "rarity").elim (.error .rarityless) .ok
  let rarity ← (Rarity.read rarityText).mapError .misread
  let face ← faceOf card name
  let legality ← legalitiesOf card
  let names ← namesOf form card name
  let identity ← colorsOf card "colorIdentity"
  let scryfall := scryfallId? form card
  return {
    id := scryfall.or (card.text? "uuid")
    joinKey := joinKeyOf expansion layout scryfall names
    order := orderOf card names name
    layout := layout
    face := face
    rarity := rarity
    identity := identity
    manaValue := manaValueOf? card
    legality := legality
    multiverseId := multiverseId? form card
    expansion := expansion }

def ownId (p : Printing) : CardId := s!"{p.expansion.code}-{p.face.number}-{p.face.name}"

end Printing

end Deckwright
