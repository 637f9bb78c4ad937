import Deckwright.Deck.Category
import Deckwright.Deck.Fault
set_option autoImplicit false

/- Three things are kept beside the entries and brought up to date by every change: where each card stands,
   which categories it belongs to, and which cards belong to a category. -/
namespace Deckwright

structure Entry where
  card : Card
  count : UInt32
deriving DecidableEq

def Entry.id (e : Entry) : CardId := e.card.id

structure Deck where
  entries : List Entry
  categories : List Category
  memberships : OrderedMap CardId (OrderedSet CategoryId)
  positions : OrderedMap CardId Nat
  nextCategory : CategoryId
deriving DecidableEq

namespace Deck

def empty : Deck := ⟨[], [], ∅, ∅, 0⟩

instance : Inhabited Deck := ⟨empty⟩

def position? (d : Deck) (id : CardId) : Option Nat := d.positions.get? id

def entry? (d : Deck) (id : CardId) : Option Entry := (d.position? id).bind fun i => d.entries[i]?

def card? (d : Deck) (id : CardId) : Option Card := (d.entry? id).map Entry.card

def cardAt? (d : Deck) (i : Nat) : Option Card := d.entries[i]?.map Entry.card

def contains (d : Deck) (id : CardId) : Bool := (d.position? id).isSome

def countOf : Option Entry → UInt32
  | some e => e.count
  | none => 0

def count (d : Deck) (id : CardId) : UInt32 := countOf (d.entry? id)

def countAt (d : Deck) (i : Nat) : UInt32 := countOf d.entries[i]?

def size (d : Deck) : Nat := d.entries.length

def isEmpty (d : Deck) : Bool := d.entries.isEmpty

def cards (d : Deck) : List Card := d.entries.map Entry.card

def sum? (m n : UInt32) : Option UInt32 :=
  if m.toNat + n.toNat < UInt32.size then some (m + n) else none

def greatest : UInt32 := UInt32.ofNat (UInt32.size - 1)

def total (counts : List UInt32) : UInt32 := counts.foldl (fun m n => (sum? m n).getD greatest) 0

def copies (d : Deck) : UInt32 := total (d.entries.map Entry.count)

def lands (d : Deck) : UInt32 := total ((d.entries.filter fun e => e.card.isLand).map Entry.count)

def nonlands (d : Deck) : UInt32 := total ((d.entries.filter fun e => !e.card.isLand).map Entry.count)

def setCountOf (d : Deck) (i : Nat) (n : UInt32) : Deck :=
  { d with entries := d.entries.modify i fun e => { e with count := n } }

def takeIn (card : Card) (c : Category) : Category :=
  if c.includes card then { c with members := c.members ++ [card.id] } else c

def append (d : Deck) (card : Card) (n : UInt32) : Deck :=
  let homes := (d.categories.filter fun c => c.includes card).map Category.id
  { d with
    entries := d.entries ++ [⟨card, n⟩]
    positions := d.positions.insert card.id d.entries.length
    categories := d.categories.map (takeIn card)
    memberships := d.memberships.insert card.id (.ofList homes) }

def add (d : Deck) (card : Card) (n : UInt32) : Deck × Bool :=
  if n = 0 then (d, false)
  else
    match d.position? card.id with
    | some i =>
      match sum? (d.countAt i) n with
      | some count => (d.setCountOf i count, true)
      | none => (d, false)
    | none => (d.append card n, true)

def addAll (d : Deck) (cards : List Card) (n : UInt32) : Deck × Bool :=
  cards.foldl
    (fun (d, changed) card =>
      let (d, added) := d.add card n
      (d, changed || added))
    (d, false)

def placesFrom (places : OrderedMap CardId Nat) (i : Nat) : List Entry → OrderedMap CardId Nat
  | [] => places
  | e :: rest => placesFrom (places.insert e.id i) (i + 1) rest

def dropAt (d : Deck) (i : Nat) (id : CardId) : Deck :=
  let entries := d.entries.eraseIdx i
  { d with
    entries := entries
    positions := placesFrom (d.positions.erase id) i (entries.drop i)
    memberships := d.memberships.erase id
    categories := d.categories.map fun c => c.forget id }

def remove (d : Deck) (id : CardId) (n : UInt32) : Deck × UInt32 :=
  if n = 0 then (d, 0)
  else
    match d.position? id with
    | none => (d, 0)
    | some i =>
      let count := d.countAt i
      if count ≤ n then (d.dropAt i id, count) else (d.setCountOf i (count - n), n)

def setCount (d : Deck) (card : Card) (n : UInt32) : Deck × Bool :=
  match d.position? card.id with
  | none => d.add card n
  | some i =>
    let count := d.countAt i
    if count = n then (d, false)
    else if n = 0 then ((d.remove card.id count).1, true)
    else (d.setCountOf i n, true)

def setCountAt (d : Deck) (i : Nat) (n : UInt32) : Deck × Bool :=
  match d.cardAt? i with
  | some card => d.setCount card n
  | none => (d, false)

-- Category ids go on from where they were.
def clear (d : Deck) : Deck := { empty with nextCategory := d.nextCategory }

def categoryIndex? (d : Deck) (name : String) : Option Nat := d.categories.findIdx? fun c => c.name = name

def category? (d : Deck) (name : String) : Option Category := d.categories.find? fun c => c.name = name

def categoryWithId? (d : Deck) (id : CategoryId) : Option Category := d.categories.find? fun c => c.id = id

def containsCategory (d : Deck) (name : String) : Bool := d.categories.any fun c => c.name = name

def categoriesOf (d : Deck) (id : CardId) : List Category :=
  match d.memberships.get? id with
  | some row => row.toList.filterMap d.categoryWithId?
  | none => []

def membersOf (c : Category) (entries : List Entry) : List CardId :=
  (entries.filter fun e => c.includes e.card).map Entry.id

def noteIn (c : Category) (rows : OrderedMap CardId (OrderedSet CategoryId)) (e : Entry) :
    OrderedMap CardId (OrderedSet CategoryId) :=
  match rows.get? e.id with
  | some row => rows.insert e.id (if c.includes e.card then row.insert c.id else row.erase c.id)
  | none => rows

def putCategory (d : Deck) (i : Nat) (c : Category) : Deck :=
  { d with
    categories := d.categories.set i { c with members := membersOf c d.entries }
    memberships := d.entries.foldl (noteIn c) d.memberships }

def addCategory (d : Deck) (spec : CategorySpec) : Except DeckFault (Deck × CategoryId) :=
  if d.containsCategory spec.name then .error (.categoryExists spec.name)
  else
    let c := Category.ofSpec d.nextCategory spec
    let wider := { d with categories := d.categories ++ [c], nextCategory := d.nextCategory + 1 }
    .ok (wider.putCategory d.categories.length c, d.nextCategory)

def removeCategory (d : Deck) (name : String) : Deck × Bool :=
  match d.category? name with
  | none => (d, false)
  | some c =>
    ({ d with
        categories := d.categories.eraseP fun other => other.name = name
        memberships := d.memberships.mapValues fun _ row => row.erase c.id },
      true)

def changeCategory (d : Deck) (name : String) (change : Category → Category × Bool) :
    Except DeckFault (Deck × Bool) :=
  match d.categoryIndex? name, d.category? name with
  | some i, some c =>
    let (c, changed) := change c
    .ok (if changed then d.putCategory i c else d, changed)
  | _, _ => .error (.noCategory name)

def forceIn (d : Deck) (name : String) (card : Card) : Except DeckFault (Deck × Bool) :=
  d.changeCategory name fun c => c.forceIn card

def keepOut (d : Deck) (name : String) (card : Card) : Except DeckFault (Deck × Bool) :=
  d.changeCategory name fun c => c.keepOut card

def edited (newName : String) (filter : Filter) (c : Category) : Category × Bool :=
  if c.name = newName ∧ c.filter = filter then (c, false)
  else ({ c with name := newName, filter := filter }, true)

def editCategory (d : Deck) (name newName : String) (filter : Filter) : Except DeckFault (Deck × Bool) :=
  if !d.containsCategory name then .error (.noCategory name)
  else if newName ≠ name && d.containsCategory newName then .error (.categoryExists newName)
  else d.changeCategory name (edited newName filter)

def renameCategory (d : Deck) (name newName : String) : Except DeckFault (Deck × Bool) :=
  match d.category? name with
  | none => .error (.noCategory name)
  | some c => d.editCategory name newName c.filter

def setSwatch (d : Deck) (name : String) (swatch : Swatch) : Except DeckFault (Deck × Bool) :=
  match d.categoryIndex? name, d.category? name with
  | some i, some c =>
    .ok ({ d with categories := d.categories.set i { c with swatch := swatch } }, c.swatch ≠ swatch)
  | _, _ => .error (.noCategory name)

end Deck

end Deckwright
