import Deckwright.Catalog.Inventory
import Deckwright.Filter.Basic
set_option autoImplicit false

namespace Deckwright

def Aspect.offered? (a : Aspect) (index : InventoryIndex) : Option (List String) :=
  match a with
  | .supertype => some index.supertypes.toList
  | .cardType => some index.types.toList
  | .subtype => some index.subtypes.toList
  | .expansion => some index.expansionNames.toList
  | .block => some index.blocks.toList
  | .legality => some index.formats.toList
  | _ => none

def Operand.values : Operand → List String
  | .options values => values.toList
  | .legality w => w.formats.toList
  | _ => []

def Leaf.unknown (l : Leaf) (index : InventoryIndex) : List (Aspect × String) :=
  match l.aspect.offered? index with
  | none => []
  | some known =>
    (l.operand.values.filter fun v => !known.any fun k => Text.eqAsciiCase k v).map fun v => (l.aspect, v)

def Filter.unknown (f : Filter) (index : InventoryIndex) : List (Aspect × String) :=
  f.leaves.flatMap fun l => l.unknown index

end Deckwright
