import Deckwright.Filter.Fault
import Deckwright.Json.Decoder
import Deckwright.Text.Natural
set_option autoImplicit false

namespace Deckwright

inductive CountFault where
  | noCopies
  | tooMany
deriving DecidableEq

inductive LineFault where
  | fileEnd
  | countExpected (text : String)
  | entryExpected
  | noCopies
  | copies (text : String) (e : Text.NaturalFault)
  | tooMany (id : String)
  | noLists
  | listExpected
  | listUnclosed
deriving DecidableEq

inductive DeckFault where
  | categoryExists (name : String)
  | noCategory (name : String)
  | unknownCard (id : String)
  | count (id : String) (e : CountFault)
  | line (number : Nat) (e : LineFault)
  | filter (e : FilterFault)
  | json (e : Json.Fault)
  | notText
deriving DecidableEq

def CountFault.message : CountFault → String
  | .noCopies => "a card needs at least one copy"
  | .tooMany => "too many copies"

def LineFault.message : LineFault → String
  | .fileEnd => "unexpected end of file"
  | .countExpected s => s!"expected a count, got \"{s}\""
  | .entryExpected => "expected \"<id>\\t<count>\""
  | .noCopies => CountFault.noCopies.message
  | .copies s e => s!"invalid copy count \"{s}\": {e.message}"
  | .tooMany id => s!"too many copies of \"{id}\""
  | .noLists => "category line has no id lists"
  | .listExpected => "expected '<'"
  | .listUnclosed => "unclosed id list"

-- Faults of form and of encoding are told apart by their kind alone.
def DeckFault.message : DeckFault → String
  | .categoryExists name => s!"a category named \"{name}\" already exists"
  | .noCategory name => s!"no category named \"{name}\""
  | .unknownCard id => s!"unknown card id \"{id}\""
  | .count id e => s!"invalid copy count for \"{id}\": {e.message}"
  | .line n e => s!"malformed deck file at line {n}: {e.message}"
  | .filter e => e.message
  | .json _ => "deck JSON error"
  | .notText => "deck I/O error"

end Deckwright
