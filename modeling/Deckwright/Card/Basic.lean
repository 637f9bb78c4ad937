import Deckwright.Card.Face
set_option autoImplicit false

namespace Deckwright

abbrev CardId := String

structure Card where
  id : CardId
  layout : Layout
  faces : List Face
  manaValue : Binary64
  identity : ColorSet
  expansion : Expansion
  rarity : Rarity
  legality : OrderedMap String Legality
  multiverseId : Option UInt32
  isLand : Bool
  anyNumber : Bool
deriving DecidableEq

namespace Card

def faceSeparator : String := " // "

def anyNumberPhrase : List Char := "a deck can have any number".toList

def allowsAnyNumber (f : Face) : Bool :=
  f.hasSupertype "basic" || Text.occurs anyNumberPhrase (Text.lower f.rules.toList)

def ofFaces (id : CardId) (expansion : Expansion) (rarity : Rarity) (faces : List Face) : Card :=
  let faces := faces.map Face.completed
  { id := id
    layout := if faces.length > 1 then .split else .normal
    faces := faces
    manaValue := Binary64.sum (faces.map fun f => f.cost.manaValue)
    identity := faces.foldl (fun s f => (s.union f.colors).union f.cost.colors) ColorSet.colorless
    expansion := expansion
    rarity := rarity
    legality := OrderedMap.empty
    multiverseId := none
    isLand := faces.any fun f => f.isOfType "land"
    anyNumber := faces.any allowsAnyNumber }

def create? (id : CardId) (expansion : Expansion) (rarity : Rarity) (faces : List Face) : Option Card :=
  if faces.isEmpty then none else some (ofFaces id expansion rarity faces)

def withLegality (c : Card) (format : String) (l : Legality) : Card :=
  { c with legality := c.legality.insert (Text.asciiLowered format) l }

def withLegalities (c : Card) (ls : List (String × Legality)) : Card :=
  ls.foldl (fun c l => c.withLegality l.1 l.2) c

def name (c : Card) : String := faceSeparator.intercalate (c.faces.map Face.name)

def colors (c : Card) : ColorSet := c.faces.foldl (fun s f => s.union f.colors) ColorSet.colorless

def legalityIn (c : Card) (format : String) : Legality :=
  (c.legality.get? (Text.asciiLowered format)).getD .notLegal

def legalIn (c : Card) : List String :=
  (c.legality.entries.filter fun e => e.2.isLegal).map Prod.fst

def isOfType (c : Card) (type : String) : Bool := c.faces.any fun f => f.isOfType type

end Card

end Deckwright
