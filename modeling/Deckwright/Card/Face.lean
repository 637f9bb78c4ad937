import Deckwright.Card.Characteristic
import Deckwright.Mana.Cost
import Deckwright.Ordered
import Deckwright.Text.Plain
set_option autoImplicit false

namespace Deckwright

structure Face where
  name : String
  cost : ManaCost
  colors : ColorSet
  supertypes : OrderedSet String
  types : OrderedSet String
  subtypes : OrderedSet String
  typeLine : String
  rules : String
  flavor : String
  power : Option Stat
  toughness : Option Stat
  loyalty : Option Stat
  artist : String
  number : String
  plainName : String
  plainRules : String
  plainFlavor : String
deriving DecidableEq

namespace Face

def ofName (name : String) : Face where
  name := name
  cost := ManaCost.free
  colors := ColorSet.colorless
  supertypes := ∅
  types := ∅
  subtypes := ∅
  typeLine := ""
  rules := ""
  flavor := ""
  power := none
  toughness := none
  loyalty := none
  artist := ""
  number := ""
  plainName := ""
  plainRules := ""
  plainFlavor := ""

def withCost (f : Face) (cost : ManaCost) : Face :=
  { f with cost := cost, colors := if f.colors.isEmpty then cost.colors else f.colors }

def withColors (f : Face) (colors : ColorSet) : Face := { f with colors := colors }

def isOfType (f : Face) (type : String) : Bool := f.types.toList.any fun t => Text.eqAsciiCase t type

def hasSupertype (f : Face) (supertype : String) : Bool :=
  f.supertypes.toList.any fun t => Text.eqAsciiCase t supertype

def collectorNumber (f : Face) : Option Binary64 :=
  let digits := f.number.toList.takeWhile Text.isAsciiDigit
  if digits.isEmpty then none
  else some (Binary64.ofDecimal false (Binary64.ofDigits digits) 0)

def typeLineOf (supertypes types subtypes : List String) : String :=
  let front := " ".intercalate (supertypes ++ types)
  if subtypes.isEmpty then front else front ++ " — " ++ " ".intercalate subtypes

def ownName : List Char := ['~']

-- How a legendary card speaks of itself: the part before a comma, before "the " or
-- before " of ", and the whole name where there is none of them.
def shortName (name : List Char) : List Char :=
  match Text.cutAt [','] name with
  | some (front, _) => Text.trim front
  | none =>
    match Text.cutAt "the ".toList name with
    | some ([], _) => name
    | some (front, _) => Text.trim front
    | none =>
      match Text.cutAt " of ".toList name with
      | some (front, _) => Text.trim front
      | none => name

def plainRulesOf (legendary : Bool) (plainName rules : List Char) : List Char :=
  if plainName.isEmpty then rules
  else
    let unnamed := Text.replaceAll plainName ownName rules
    let short := shortName plainName
    if legendary && !short.isEmpty then Text.replaceAll short ownName unnamed else unnamed

def isLegendary (f : Face) : Bool := f.hasSupertype "legendary"

def completed (f : Face) : Face :=
  let name := Text.plain f.name.toList
  { f with
    typeLine :=
      if f.typeLine.isEmpty then typeLineOf f.supertypes.toList f.types.toList f.subtypes.toList
      else f.typeLine
    plainName := String.ofList name
    plainFlavor := Text.plained f.flavor
    plainRules := String.ofList (plainRulesOf f.isLegendary name (Text.plain f.rules.toList)) }

end Face

end Deckwright
