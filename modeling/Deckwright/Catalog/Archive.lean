import Deckwright.Card.Packed
import Deckwright.Catalog.Inventory
set_option autoImplicit false

namespace Deckwright.Inventory

def archive (inv : Inventory) : Text.Octets := Packed.list Packed.card inv.cards

def ofArchive (s : Text.Octets) : Except Packed.Fault Inventory :=
  match Packed.Reader.list Packed.Reader.card s with
  | .error e => .error e
  | .ok (cards, _) => .ok (ofCards cards)

end Deckwright.Inventory
