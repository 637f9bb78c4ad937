import Deckwright.Card.Basic
set_option autoImplicit false

namespace Deckwright

structure InventoryIndex where
  expansions : OrderedSet Expansion
  expansionNames : OrderedSet String
  blocks : OrderedSet String
  supertypes : OrderedSet String
  types : OrderedSet String
  subtypes : OrderedSet String
  formats : OrderedSet String
deriving DecidableEq

def InventoryIndex.ofCards (cards : List Card) : InventoryIndex :=
  let faces := cards.flatMap Card.faces
  { expansions := .ofList (cards.map Card.expansion)
    expansionNames := .ofList (cards.map fun c => c.expansion.name)
    blocks := .ofList (cards.map fun c => c.expansion.block)
    supertypes := .ofList (faces.flatMap fun f => f.supertypes.toList)
    types := .ofList (faces.flatMap fun f => f.types.toList)
    subtypes := .ofList (faces.flatMap fun f => f.subtypes.toList)
    formats := .ofList (cards.flatMap fun c => c.legality.keys) }

def firstOfEachId : List Card → List Card
  | [] => []
  | c :: rest => c :: (firstOfEachId rest).filter fun d => d.id ≠ c.id

structure Inventory where
  cards : List Card
deriving DecidableEq

namespace Inventory

def empty : Inventory := ⟨[]⟩

instance : Inhabited Inventory := ⟨empty⟩

def ofCards (cards : List Card) : Inventory := ⟨firstOfEachId cards⟩

def get? (inv : Inventory) (id : CardId) : Option Card := inv.cards.find? fun c => c.id = id

def at? (inv : Inventory) (i : Nat) : Option Card := inv.cards[i]?

def contains (inv : Inventory) (id : CardId) : Bool := (inv.get? id).isSome

def size (inv : Inventory) : Nat := inv.cards.length

def isEmpty (inv : Inventory) : Bool := inv.cards.isEmpty

def index (inv : Inventory) : InventoryIndex := InventoryIndex.ofCards inv.cards

end Inventory

end Deckwright
