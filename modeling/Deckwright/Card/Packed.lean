import Deckwright.Card.Basic
import Deckwright.Text.Utf8
set_option autoImplicit false

/- Cards as octets: numbers in little-endian order at their full width, texts and
   lists behind their length, fields one after another with nothing between them. -/
namespace Deckwright.Packed

open Text (Octets)

inductive Fault where
  | endOfInput
  | corrupt
deriving DecidableEq

def littleEndian : Nat → Nat → Octets
  | 0, _ => []
  | width + 1, n => UInt8.ofNat (n % 256) :: littleEndian width (n / 256)

def word8 (n : UInt8) : Octets := [n]

def word32 (n : Nat) : Octets := littleEndian 4 n

def word64 (n : Nat) : Octets := littleEndian 8 n

def flag (b : Bool) : Octets := [if b then 1 else 0]

def text (s : String) : Octets :=
  let octets := Text.toOctets s.toList
  word64 octets.length ++ octets

def list {α : Type} (put : α → Octets) (as : List α) : Octets :=
  word64 as.length ++ as.flatMap put

def optional {α : Type} (put : α → Octets) : Option α → Octets
  | none => [0]
  | some a => 1 :: put a

def number (x : Binary64) : Octets := word64 x.bits.toNat

abbrev Reader (α : Type) := Octets → Except Fault (α × Octets)

namespace Reader

def pure {α : Type} (a : α) : Reader α := fun s => .ok (a, s)

def bind {α β : Type} (r : Reader α) (f : α → Reader β) : Reader β := fun s =>
  match r s with
  | .error e => .error e
  | .ok (a, rest) => f a rest

instance : Monad Reader where
  pure := pure
  bind := bind

def fail {α : Type} (e : Fault) : Reader α := fun _ => .error e

def octet : Reader UInt8
  | [] => .error .endOfInput
  | b :: rest => .ok (b, rest)

def octets (n : Nat) : Reader Octets := fun s =>
  if n ≤ s.length then .ok (s.take n, s.drop n) else .error .endOfInput

def ofLittleEndian : Octets → Nat
  | [] => 0
  | b :: rest => b.toNat + 256 * ofLittleEndian rest

def word (width : Nat) : Reader Nat := do
  let bs ← octets width
  return ofLittleEndian bs

def word32 : Reader Nat := word 4

def word64 : Reader Nat := word 8

def flag : Reader Bool := do
  let b ← octet
  if b = 0 then return false
  else if b = 1 then return true
  else fail .corrupt

def text : Reader String := do
  let n ← word64
  let bs ← octets n
  match Text.ofOctets? bs with
  | some cs => return String.ofList cs
  | none => fail .corrupt

def repeated {α : Type} (get : Reader α) : Nat → Reader (List α)
  | 0 => return []
  | n + 1 => do
    let a ← get
    let as ← repeated get n
    return a :: as

-- Every element takes at least one octet, so a length beyond the input ends in the
-- same fault after as many elements as there are.
def list {α : Type} (get : Reader α) : Reader (List α) := do
  let n ← word64
  repeated get n

def optional {α : Type} (get : Reader α) : Reader (Option α) := do
  let b ← octet
  if b = 0 then return none
  else if b = 1 then
    let a ← get
    return some a
  else fail .corrupt

def choice {α : Type} (all : List α) : Reader α := do
  let n ← word32
  match all[n]? with
  | some a => return a
  | none => fail .corrupt

def number : Reader Binary64 := do
  let n ← word64
  return ⟨UInt64.ofNat n⟩

end Reader

def indexIn {α : Type} [DecidableEq α] (all : List α) (a : α) : Octets := word32 (all.idxOf a)

def stat (s : Stat) : Octets := text s.text ++ number s.value

def cost (c : ManaCost) : Octets := list (fun m => text m.name) c.symbols

def expansion (e : Expansion) : Octets :=
  text e.name ++ text e.block ++ text e.code ++ text e.releaseDate

def face (f : Face) : Octets :=
  text f.name ++ cost f.cost ++ word8 f.colors.mask ++
    list text f.supertypes.toList ++ list text f.types.toList ++ list text f.subtypes.toList ++
    text f.typeLine ++ text f.rules ++ text f.flavor ++
    optional stat f.power ++ optional stat f.toughness ++ optional stat f.loyalty ++
    text f.artist ++ text f.number ++
    text f.plainName ++ text f.plainRules ++ text f.plainFlavor

def legalityEntry (e : String × Legality) : Octets := text e.1 ++ indexIn Legality.all e.2

def card (c : Card) : Octets :=
  text c.id ++ indexIn Layout.all c.layout ++ list face c.faces ++
    number c.manaValue ++ word8 c.identity.mask ++ expansion c.expansion ++
    indexIn Rarity.all c.rarity ++ list legalityEntry c.legality.entries ++
    optional (fun n => word32 n.toNat) c.multiverseId ++ flag c.isLand ++ flag c.anyNumber

namespace Reader

def stat : Reader Stat := do
  let text ← text
  let value ← number
  return ⟨text, value⟩

def cost : Reader ManaCost := do
  let names ← list text
  return ⟨names.map ManaSymbol.mk⟩

def colors : Reader ColorSet := do
  let mask ← octet
  return ⟨mask⟩

def textSet : Reader (OrderedSet String) := do
  let texts ← list text
  return OrderedSet.ofList texts

def expansion : Reader Expansion := do
  let name ← text
  let block ← text
  let code ← text
  let releaseDate ← text
  return ⟨name, block, code, releaseDate⟩

def face : Reader Face := do
  let name ← text
  let cost ← cost
  let colors ← colors
  let supertypes ← textSet
  let types ← textSet
  let subtypes ← textSet
  let typeLine ← text
  let rules ← text
  let flavor ← text
  let power ← optional stat
  let toughness ← optional stat
  let loyalty ← optional stat
  let artist ← text
  let number ← text
  let plainName ← text
  let plainRules ← text
  let plainFlavor ← text
  return ⟨name, cost, colors, supertypes, types, subtypes, typeLine, rules, flavor,
    power, toughness, loyalty, artist, number, plainName, plainRules, plainFlavor⟩

def legalityEntry : Reader (String × Legality) := do
  let format ← text
  let status ← choice Legality.all
  return (format, status)

def card : Reader Card := do
  let id ← text
  let layout ← choice Layout.all
  let faces ← list face
  let manaValue ← number
  let identity ← colors
  let expansion ← expansion
  let rarity ← choice Rarity.all
  let legality ← list legalityEntry
  let multiverseId ← optional word32
  let isLand ← flag
  let anyNumber ← flag
  return ⟨id, layout, faces, manaValue, identity, expansion, rarity, OrderedMap.ofList legality,
    multiverseId.map UInt32.ofNat, isLand, anyNumber⟩

end Reader

end Deckwright.Packed
