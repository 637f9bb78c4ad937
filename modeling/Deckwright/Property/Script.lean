import Deckwright.Property.ScriptTable
import Deckwright.Property.SharedScriptTable
set_option autoImplicit false

namespace Deckwright.Script

def find? (name : String) : Option CharSet := NamedSet.find? all name

def sharedSet : CharSet := .unionOf (shared.map NamedSet.set)

-- A shared character counts for exactly the scripts that it is listed with.
def usedIn (script : NamedSet) : CharSet :=
  .unionOf (script.set.without sharedSet ::
    (shared.filter fun s => script.names.any s.names.contains).map NamedSet.set)

def findUsed? (name : String) : Option CharSet :=
  (all.find? fun s => s.names.contains name).map usedIn

end Deckwright.Script
