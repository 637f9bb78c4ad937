import Deckwright.Property.AgeTable
set_option autoImplicit false

namespace Deckwright.Age

def upToFrom (name : String) (older : List CharSet) : List NamedSet → Option CharSet
  | [] => none
  | e :: rest =>
    if e.names.contains name then some (.unionOf (e.set :: older)) else upToFrom name (e.set :: older) rest

def find? (name : String) : Option CharSet := upToFrom name [] editions

end Deckwright.Age
