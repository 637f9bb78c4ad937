import Deckwright.Binary64.Decimal
import Deckwright.Misread
import Deckwright.Text.Blank
import Deckwright.Text.Case
import Deckwright.Text.Search
set_option autoImplicit false

namespace Deckwright

inductive Rarity where
  | basicLand
  | common
  | uncommon
  | rare
  | mythicRare
  | special
deriving DecidableEq

namespace Rarity

def all : List Rarity := [.basicLand, .common, .uncommon, .rare, .mythicRare, .special]

def rank : Rarity → Nat
  | .basicLand => 0
  | .common => 1
  | .uncommon => 2
  | .rare => 3
  | .mythicRare => 4
  | .special => 5

theorem rank_inj {a b : Rarity} (h : a.rank = b.rank) : a = b := by
  cases a <;> cases b <;> first | rfl | cases h

instance : Ord Rarity := ⟨compareOn Rarity.rank⟩

instance : Std.TransOrd Rarity := inferInstanceAs (Std.TransCmp (compareOn Rarity.rank))

instance : Std.LawfulEqOrd Rarity where
  compare_self {a} := @Std.ReflCmp.compare_self Nat compare _ a.rank
  eq_of_compare {a b} h := rank_inj (@Std.LawfulEqCmp.eq_of_compare Nat compare _ a.rank b.rank h)

def name : Rarity → String
  | .basicLand => "Basic Land"
  | .common => "Common"
  | .uncommon => "Uncommon"
  | .rare => "Rare"
  | .mythicRare => "Mythic Rare"
  | .special => "Special"

def key : Rarity → String
  | .basicLand => "BasicLand"
  | .mythicRare => "MythicRare"
  | r => r.name

def spellings : Rarity → List String
  | .basicLand => ["basic land", "basic", "l"]
  | .common => ["common", "c"]
  | .uncommon => ["uncommon", "u"]
  | .rare => ["rare", "r"]
  | .mythicRare => ["mythic rare", "mythic", "m"]
  | .special => ["special", "timeshifted", "bonus", "s"]

def read (s : String) : Except Misread Rarity :=
  let word := String.ofList (Text.asciiLower (Text.trim s.toList))
  match all.find? fun r => r.spellings.contains word with
  | some r => .ok r
  | none => .error (.rarity s)

end Rarity

inductive Legality where
  | banned
  | legal
  | restricted
  | notLegal
deriving DecidableEq

namespace Legality

def all : List Legality := [.banned, .legal, .restricted, .notLegal]

def isLegal : Legality → Bool
  | .legal | .restricted => true
  | .banned | .notLegal => false

def name : Legality → String
  | .banned => "Banned"
  | .legal => "Legal"
  | .restricted => "Restricted"
  | .notLegal => "Not Legal"

def key : Legality → String
  | .notLegal => "NotLegal"
  | l => l.name

def spellings : Legality → List String
  | .banned => ["banned"]
  | .legal => ["legal"]
  | .restricted => ["restricted"]
  | .notLegal => ["not legal", "not_legal", "illegal"]

def read (s : String) : Except Misread Legality :=
  let word := String.ofList (Text.asciiLower (Text.trim s.toList))
  match all.find? fun l => l.spellings.contains word with
  | some l => .ok l
  | none => .error (.legality s)

end Legality

structure Stat where
  text : String
  value : Binary64
deriving DecidableEq

namespace Stat

def halfSign : Char := '½'

def spellHalves (s : List Char) : List Char :=
  s.flatMap fun c => if c = halfSign then ['.', '5'] else [c]

def addTerm (total : Binary64) (term : List Char) : Binary64 :=
  match Binary64.read (Text.trim term) with
  | .ok x => total.add x
  | .error _ => total

-- The terms are what stands between the signs; one that is no number counts as 0.
-- Only a sign in front of them all makes the sum negative.
def valueOf (s : List Char) : Binary64 :=
  let cleaned := spellHalves s
  let total := (Text.splitOnAny ['+', '-'] cleaned).foldl addTerm Binary64.zero
  match Text.trimStart cleaned with
  | '-' :: _ => total.neg
  | _ => total

def ofText (s : String) : Stat := ⟨s, valueOf s.toList⟩

def isVariable (s : Stat) : Bool := s.text.toList.any fun c => ['*', 'X', 'x', '?'].contains c

end Stat

inductive Layout where
  | normal
  | split
  | aftermath
  | adventure
  | flip
  | transform
  | modalDfc
  | meld
  | leveler
  | saga
  | class_
  | planar
  | scheme
  | vanguard
deriving DecidableEq

namespace Layout

def all : List Layout :=
  [.normal, .split, .aftermath, .adventure, .flip, .transform, .modalDfc, .meld, .leveler, .saga,
    .class_, .planar, .scheme, .vanguard]

def name : Layout → String
  | .normal => "Normal"
  | .split => "Split"
  | .aftermath => "Aftermath"
  | .adventure => "Adventure"
  | .flip => "Flip"
  | .transform => "Transform"
  | .modalDfc => "ModalDfc"
  | .meld => "Meld"
  | .leveler => "Leveler"
  | .saga => "Saga"
  | .class_ => "Class"
  | .planar => "Planar"
  | .scheme => "Scheme"
  | .vanguard => "Vanguard"

def isMultiFaced : Layout → Bool
  | .split | .aftermath | .adventure | .flip | .transform | .modalDfc | .meld => true
  | _ => false

def isAsciiAlphanumeric (c : Char) : Bool := Text.isAsciiLetter c || Text.isAsciiDigit c

-- Only letters and digits count, so modal_dfc and Modal DFC are one spelling.
def read (s : String) : Except Misread Layout :=
  let word := (Text.asciiLower (Text.trim s.toList)).filter isAsciiAlphanumeric
  if word = "doublefaced".toList then .ok .transform
  else
    match all.find? fun l => Text.asciiLower l.name.toList = word with
    | some l => .ok l
    | none => .error (.layout s)

end Layout

def noBlock : String := "<No Block>"

structure Expansion where
  name : String
  block : String
  code : String
  releaseDate : String
deriving DecidableEq

namespace Expansion

def ofName (name code : String) : Expansion := ⟨name, noBlock, code, ""⟩

def order : Expansion → Expansion → Ordering :=
  compareLex (compareOn Expansion.name)
    (compareLex (compareOn Expansion.block)
      (compareLex (compareOn Expansion.code) (compareOn Expansion.releaseDate)))

instance : Ord Expansion := ⟨order⟩

instance : Std.TransOrd Expansion :=
  inferInstanceAs (Std.TransCmp (compareLex (compareOn Expansion.name)
    (compareLex (compareOn Expansion.block)
      (compareLex (compareOn Expansion.code) (compareOn Expansion.releaseDate)))))

theorem eq_of_order {a b : Expansion} (h : order a b = .eq) : a = b := by
  obtain ⟨h1, h⟩ := Ordering.then_eq_eq.1 h
  obtain ⟨h2, h⟩ := Ordering.then_eq_eq.1 h
  obtain ⟨h3, h4⟩ := Ordering.then_eq_eq.1 h
  cases a
  cases b
  have e1 := @Std.LawfulEqCmp.eq_of_compare String compare _ _ _ h1
  have e2 := @Std.LawfulEqCmp.eq_of_compare String compare _ _ _ h2
  have e3 := @Std.LawfulEqCmp.eq_of_compare String compare _ _ _ h3
  have e4 := @Std.LawfulEqCmp.eq_of_compare String compare _ _ _ h4
  simp_all

instance : Std.LawfulEqOrd Expansion where
  compare_self {a} := by
    change order a a = .eq
    simp [order, compareLex, compareOn, Std.ReflCmp.compare_self]
  eq_of_compare := eq_of_order

end Expansion

end Deckwright
