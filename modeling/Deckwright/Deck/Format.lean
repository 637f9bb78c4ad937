import Deckwright.Deck.Basic
import Deckwright.Json.Printer
set_option autoImplicit false

namespace Deckwright

structure FormatRules where
  deckSize : UInt32
  exactSize : Bool
  maxCopies : UInt32
  hasCommander : Bool
deriving DecidableEq

namespace FormatRules

def constructed : FormatRules := ⟨60, false, 4, false⟩

def singleton : FormatRules := ⟨100, true, 1, true⟩

def brawl : FormatRules := ⟨60, true, 1, true⟩

instance : Inhabited FormatRules := ⟨constructed⟩

def table : List (String × FormatRules) :=
  [("brawl", brawl),
    ("commander", singleton),
    ("duel", singleton),
    ("future", constructed),
    ("historic", constructed),
    ("legacy", constructed),
    ("modern", constructed),
    ("oldschool", constructed),
    ("pauper", constructed),
    ("penny", constructed),
    ("pioneer", constructed),
    ("standard", constructed),
    ("vintage", constructed)]

def names : List String := table.map Prod.fst

def ofFormat? (name : String) : Option FormatRules := table.lookup (Text.asciiLowered name)

def toJson (r : FormatRules) : Json :=
  .record [
    ("deck_size", .ofNat r.deckSize.toNat),
    ("exact_size", .bool r.exactSize),
    ("max_copies", .ofNat r.maxCopies.toNat),
    ("has_commander", .bool r.hasCommander)]

structure Parts where
  deckSize : Option UInt32 := none
  exactSize : Option Bool := none
  maxCopies : Option UInt32 := none
  hasCommander : Option Bool := none

def Parts.rules (p : Parts) : FormatRules :=
  ⟨p.deckSize.getD constructed.deckSize, p.exactSize.getD constructed.exactSize,
    p.maxCopies.getD constructed.maxCopies, p.hasCommander.getD constructed.hasCommander⟩

def reader : Json.Reader FormatRules :=
  Json.Read.record
    [Json.Read.slot "deck_size" Parts.deckSize (fun p v => { p with deckSize := some v }) Json.Read.word32,
      Json.Read.slot "exact_size" Parts.exactSize (fun p v => { p with exactSize := some v }) Json.Read.bool,
      Json.Read.slot "max_copies" Parts.maxCopies (fun p v => { p with maxCopies := some v }) Json.Read.word32,
      Json.Read.slot "has_commander" Parts.hasCommander (fun p v => { p with hasCommander := some v }) Json.Read.bool]
    {} fun _ p => some p.rules

end FormatRules

inductive Problem where
  | tooFew (held need : UInt32)
  | wrongSize (held need : UInt32)
  | tooMany (card : String) (count most : UInt32)
  | restricted (card : String) (count : UInt32)
  | banned (card : String)
  | notLegal (card : String)
deriving DecidableEq

namespace Problem

def message : Problem → String
  | .tooFew held need => s!"deck has {held} cards, needs at least {need}"
  | .wrongSize held need => s!"deck has {held} cards, needs exactly {need}"
  | .tooMany card count most => s!"{card}: {count} copies, at most {most} allowed"
  | .restricted card count => s!"{card} is restricted, deck has {count} copies"
  | .banned card => s!"{card} is banned"
  | .notLegal card => s!"{card} is not legal"

end Problem

namespace Deck

def sizeProblem? (d : Deck) (r : FormatRules) : Option Problem :=
  if r.exactSize && d.copies ≠ r.deckSize then some (.wrongSize d.copies r.deckSize)
  else if d.copies < r.deckSize then some (.tooFew d.copies r.deckSize)
  else none

def entryProblem? (format : String) (r : FormatRules) (e : Entry) : Option Problem :=
  let name := e.card.name
  match e.card.legalityIn format with
  | .banned => some (.banned name)
  | .notLegal => some (.notLegal name)
  | .restricted => if 1 < e.count then some (.restricted name e.count) else none
  | .legal => if r.maxCopies < e.count && !e.card.anyNumber then some (.tooMany name e.count r.maxCopies) else none

def problems (d : Deck) (format : String) (r : FormatRules) : List Problem :=
  (d.sizeProblem? r).toList ++ d.entries.filterMap (entryProblem? format r)

end Deck

end Deckwright
