import Deckwright.Property.Age
import Deckwright.Property.Break
import Deckwright.Text.Case
import Deckwright.Text.Search
set_option autoImplicit false

/- Sets of characters by what is said of them between braces: a name alone, or a property
   and its value. In names only letters, digits and signs other than the hyphen and the
   underscore count, capitals are small, and "is" in front is dropped. -/
namespace Deckwright.Property

def dropIs : List Char → List Char
  | c :: d :: s => if c.toLower = 'i' && d.toLower = 's' then s else c :: d :: s
  | s => s

def isJunk (c : Char) : Bool := c = ' ' || c = '_' || c = '-' || 0x80 ≤ c.toNat

-- A lone c behind a dropped "is" is the name of another property.
def nameOf (s : List Char) : String :=
  let front := dropIs s
  let plain := Text.asciiLower (front.filter fun c => !isJunk c)
  if front.length < s.length && plain = ['c'] then "isc" else String.ofList plain

def named? (s : List Char) : Option CharSet :=
  let name := nameOf s
  ((Trait.find? name).or (GeneralCategory.find? name)).or (Script.find? name)

inductive Valued where
  | category
  | script
  | scriptUse
  | age
  | clusterBreak
  | wordBreak
  | sentenceBreak

def valuedNames : List (String × Valued) :=
  [("gc", .category), ("generalcategory", .category),
    ("sc", .script), ("script", .script),
    ("scx", .scriptUse), ("scriptextensions", .scriptUse),
    ("age", .age),
    ("gcb", .clusterBreak), ("graphemeclusterbreak", .clusterBreak),
    ("wb", .wordBreak), ("wordbreak", .wordBreak),
    ("sb", .sentenceBreak), ("sentencebreak", .sentenceBreak)]

def Valued.find? : Valued → String → Option CharSet
  | .category => GeneralCategory.find?
  | .script => Script.find?
  | .scriptUse => Script.findUsed?
  | .age => Age.find?
  | .clusterBreak => ClusterBreak.find?
  | .wordBreak => WordBreak.find?
  | .sentenceBreak => SentenceBreak.find?

def valued? (property value : List Char) : Option CharSet := do
  let p ← valuedNames.lookup (nameOf property)
  p.find? (nameOf value)

def read? (s : List Char) : Option (Bool × CharSet) :=
  match Text.cutAt ['!', '='] s with
  | some (property, value) => (valued? property value).map fun set => (true, set)
  | none =>
    match (Text.cutAt [':'] s).or (Text.cutAt ['='] s) with
    | some (property, value) => (valued? property value).map fun set => (false, set)
    | none => (named? s).map fun set => (false, set)

end Deckwright.Property
