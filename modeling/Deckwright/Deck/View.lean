import Deckwright.Deck.Basic
set_option autoImplicit false

namespace Deckwright.Deck

structure View where
  deck : Deck
  category : Category

namespace View

def size (v : View) : Nat := v.category.members.length

def isEmpty (v : View) : Bool := v.category.members.isEmpty

def cards (v : View) : List Card := v.category.members.filterMap v.deck.card?

def copies (v : View) : UInt32 := total (v.category.members.map v.deck.count)

def cardAt? (v : View) (i : Nat) : Option Card := v.category.members[i]?.bind v.deck.card?

def position? (v : View) (id : CardId) : Option Nat := v.category.members.findIdx? fun m => m = id

def contains (v : View) (id : CardId) : Bool := v.category.members.contains id

def count (v : View) (id : CardId) : UInt32 := if v.contains id then v.deck.count id else 0

end View

def view? (d : Deck) (name : String) : Option View := (d.category? name).map fun c => ⟨d, c⟩

def viewWithId? (d : Deck) (id : CategoryId) : Option View := (d.categoryWithId? id).map fun c => ⟨d, c⟩

def views (d : Deck) : List View := d.categories.map fun c => ⟨d, c⟩

end Deckwright.Deck
