import Deckwright.Card.Basic
import Deckwright.Filter.Mode
set_option autoImplicit false

namespace Deckwright

inductive ValueKind where
  | text
  | cost
  | number
  | colors
  | options
  | rarity
  | legality
  | constant
deriving DecidableEq

def ValueKind.name : ValueKind → String
  | .text => "Text"
  | .cost => "ManaCost"
  | .number => "Number"
  | .colors => "Colors"
  | .options => "Options"
  | .rarity => "Rarity"
  | .legality => "Legality"
  | .constant => "Vacuous"

inductive Aspect where
  | name
  | manaCost
  | manaValue
  | color
  | colorIdentity
  | typeLine
  | supertype
  | cardType
  | subtype
  | expansion
  | block
  | rarity
  | rulesText
  | flavorText
  | power
  | toughness
  | loyalty
  | artist
  | cardNumber
  | legality
  | anyCard
  | noCard
deriving DecidableEq

namespace Aspect

def all : List Aspect :=
  [.name, .manaCost, .manaValue, .color, .colorIdentity, .typeLine, .supertype, .cardType, .subtype,
    .expansion, .block, .rarity, .rulesText, .flavorText, .power, .toughness, .loyalty, .artist,
    .cardNumber, .legality, .anyCard, .noCard]

def code : Aspect → String
  | .name => "n"
  | .manaCost => "m"
  | .manaValue => "cmc"
  | .color => "c"
  | .colorIdentity => "ci"
  | .typeLine => "type"
  | .supertype => "super"
  | .cardType => "cardtype"
  | .subtype => "sub"
  | .expansion => "x"
  | .block => "b"
  | .rarity => "r"
  | .rulesText => "o"
  | .flavorText => "f"
  | .power => "p"
  | .toughness => "t"
  | .loyalty => "l"
  | .artist => "a"
  | .cardNumber => "#"
  | .legality => "legal"
  | .anyCard => "*"
  | .noCard => "0"

def title : Aspect → String
  | .name => "Name"
  | .manaCost => "Mana Cost"
  | .manaValue => "Mana Value"
  | .color => "Color"
  | .colorIdentity => "Color Identity"
  | .typeLine => "Type Line"
  | .supertype => "Supertype"
  | .cardType => "Card Type"
  | .subtype => "Subtype"
  | .expansion => "Expansion"
  | .block => "Block"
  | .rarity => "Rarity"
  | .rulesText => "Rules Text"
  | .flavorText => "Flavor Text"
  | .power => "Power"
  | .toughness => "Toughness"
  | .loyalty => "Loyalty"
  | .artist => "Artist"
  | .cardNumber => "Card Number"
  | .legality => "Format Legality"
  | .anyCard => "<Any Card>"
  | .noCard => "<No Card>"

def kind : Aspect → ValueKind
  | .name | .typeLine | .rulesText | .flavorText | .artist => .text
  | .manaCost => .cost
  | .manaValue | .power | .toughness | .loyalty | .cardNumber => .number
  | .color | .colorIdentity => .colors
  | .supertype | .cardType | .subtype | .expansion | .block => .options
  | .rarity => .rarity
  | .legality => .legality
  | .anyCard | .noCard => .constant

def isStat : Aspect → Bool
  | .power | .toughness | .loyalty => true
  | _ => false

def ofCode? (code : String) : Option Aspect := all.find? fun a => Text.eqAsciiCase a.code code

def allows (a : Aspect) (m : Mode) : Bool :=
  match a.kind, m with
  | .constant, m => m = .always
  | .number, .compare _ => true
  | .number, .missing | .number, .variable_ => a.isStat
  | .number, _ => false
  | _, .contains _ => true
  | _, _ => false

def modes (a : Aspect) : List Mode :=
  let base :=
    match a.kind with
    | .constant => [.always]
    | .number => Comparison.all.map Mode.compare
    | _ => Containment.all.map Mode.contains
  if a.isStat then base ++ [.missing, .variable_] else base

def faceText : Aspect → Face → String
  | .name, f => f.plainName
  | .rulesText, f => f.plainRules
  | .flavorText, f => f.plainFlavor
  | .typeLine, f => Text.plained f.typeLine
  | .artist, f => Text.plained f.artist
  | _, _ => ""

def texts (a : Aspect) (c : Card) : List String := c.faces.map a.faceText

structure Reading where
  value : Binary64
  isVariable : Bool

def Reading.ofStat (s : Stat) : Reading := ⟨s.value, s.isVariable⟩

def Reading.fixed (x : Binary64) : Reading := ⟨x, false⟩

def numbers (a : Aspect) (c : Card) : List (Option Reading) :=
  match a with
  | .manaValue => [some (.fixed c.manaValue)]
  | .power => c.faces.map fun f => f.power.map .ofStat
  | .toughness => c.faces.map fun f => f.toughness.map .ofStat
  | .loyalty => c.faces.map fun f => f.loyalty.map .ofStat
  | .cardNumber => c.faces.map fun f => f.collectorNumber.map .fixed
  | _ => []

def colorSets (a : Aspect) (c : Card) : List ColorSet :=
  match a with
  | .colorIdentity => [c.identity]
  | _ => c.faces.map Face.colors

def costs (_ : Aspect) (c : Card) : List ManaCost := c.faces.map Face.cost

def optionLists (a : Aspect) (c : Card) : List (List String) :=
  match a with
  | .supertype => c.faces.map fun f => f.supertypes.toList.map Text.lowered
  | .cardType => c.faces.map fun f => f.types.toList.map Text.lowered
  | .subtype => c.faces.map fun f => f.subtypes.toList.map Text.lowered
  | .expansion => [[Text.lowered c.expansion.name]]
  | .block => [[Text.lowered c.expansion.block]]
  | _ => []

end Aspect

end Deckwright
