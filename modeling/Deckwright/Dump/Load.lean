import Deckwright.Catalog.Inventory
import Deckwright.Dump.Assembly
import Deckwright.Dump.Basic
import Deckwright.Dump.Meter
import Deckwright.Dump.Options
import Deckwright.Json.Decoder
set_option autoImplicit false

namespace Deckwright

inductive Stage where
  | opening (file : String)
  | parsing (file : String)
  | reading
  | set (name : String)
  | joining
  | deduplicating
deriving DecidableEq

namespace Stage

def text : Stage → String
  | .opening file => s!"Opening {file}..."
  | .parsing file => s!"Parsing {file}..."
  | .reading => "Reading cards..."
  | .set name => s!"Loading cards from {name}..."
  | .joining => "Processing multi-faced cards..."
  | .deduplicating => "Removing duplicate entries..."

end Stage

inductive LoadEvent where
  | stage (s : Stage)
  | progress (p : Progress)
deriving DecidableEq

inductive LoadWarning where
  | strangeSet (key : String)
  | noArtist (card : String) (e : Expansion)
  | skipped (card : String) (e : Expansion) (reason : PrintingFault)
  | split (s : Split)
  | unknownFormats (formats : List String)
deriving DecidableEq

namespace LoadWarning

def message : LoadWarning → String
  | .strangeSet key => s!"{key}: set entry is not an object"
  | .noArtist card e => s!"{card} ({e.name}): Missing artist!"
  | .skipped card e reason => s!"{card} ({e.name}): {reason.message}"
  | .split s => s!"{s.card} ({s.expansion.name}): {s.problem.message}"
  | .unknownFormats formats =>
    "Could not find definitions for the following formats: " ++ ", ".intercalate formats

end LoadWarning

structure Harvest where
  events : List LoadEvent
  warnings : List LoadWarning
  printings : List Printing
deriving DecidableEq

namespace Harvest

def empty : Harvest := ⟨[], [], []⟩

def append (h k : Harvest) : Harvest :=
  ⟨h.events ++ k.events, h.warnings ++ k.warnings, h.printings ++ k.printings⟩

instance : Append Harvest := ⟨append⟩

end Harvest

namespace DumpItem

def unnamed : String := "<unnamed>"

def isWanted (o : LoadOptions) (form : DumpForm) : DumpItem → Bool
  | .card _ fields => !o.needsMultiverseId || (Printing.multiverseId? form fields).isSome
  | _ => false

def found (o : LoadOptions) (form : DumpForm) (e : Expansion) (card : Fields) :
    List LoadWarning × List Printing :=
  match Printing.read form e card with
  | .ok p =>
    (if o.warnsMissingArtist && p.face.artist.isEmpty then [.noArtist p.face.name e] else [], [p])
  | .error reason => ([.skipped ((Printing.faceName? card).getD unnamed) e reason], [])

def harvest (o : LoadOptions) (form : DumpForm) (m : Meter) (item : DumpItem) : Meter × Harvest :=
  match item with
  | .strangeSet key => (m, ⟨[], [.strangeSet key], []⟩)
  | .set e => (m, ⟨[.stage (.set e.name)], [], []⟩)
  | .strangeCard => (m, .empty)
  | .card e fields =>
    if item.isWanted o form then
      let (warnings, printings) := found o form e fields
      let (m, due) := m.advance
      (m, ⟨due.toList.map .progress, warnings, printings⟩)
    else (m, .empty)

end DumpItem

-- To stop after n events means at the first look after the n-th was told.
def isTimeToStop (stop : Option Nat) (told : Nat) : Bool := stop.any fun n => n ≤ told

def gather (o : LoadOptions) (form : DumpForm) (stop : Option Nat) (told : Nat) (m : Meter) :
    List DumpItem → Bool × Harvest
  | [] => (false, .empty)
  | item :: rest =>
    if isTimeToStop stop told then (true, .empty)
    else
      let (m, h) := item.harvest o form m
      let (stopped, more) := gather o form stop (told + h.events.length) m rest
      (stopped, h ++ more)

structure LoadOutcome where
  inventory : Inventory
  warnings : List LoadWarning
  cancelled : Bool
deriving DecidableEq

namespace LoadOutcome

def stopped : LoadOutcome := ⟨.empty, [], true⟩

end LoadOutcome

def formatWarnings (o : LoadOptions) (inv : Inventory) : List LoadWarning :=
  let unknown := inv.index.formats.toList.filter fun f => !o.knows f
  if unknown.isEmpty then [] else [.unknownFormats unknown]

def finished (o : LoadOptions) (h : Harvest) : LoadOutcome :=
  let (cards, splits) := assemble h.printings
  let inv := Inventory.ofCards cards
  ⟨inv, h.warnings ++ splits.map .split ++ formatWarnings o inv, false⟩

def closing : List LoadEvent :=
  [.stage .joining, .stage .deduplicating, .progress (.percent 100)]

namespace Dump

def records (d : Dump) : List Fields :=
  (d.sets.flatMap fun entry => ((entry.2.field? "cards").bind Json.items?).getD []).filterMap Fields.ofJson?

def recordCount (d : Dump) (o : LoadOptions) : Nat :=
  d.records.countP fun card => !o.needsMultiverseId || (Printing.multiverseId? d.form card).isSome

def meter (d : Dump) (o : LoadOptions) : Meter := .ofTotal (d.recordCount o) o.progressStep.toNat

def opening (d : Dump) (o : LoadOptions) : List LoadEvent :=
  [.stage .reading, .progress (d.meter o).opening]

def load (d : Dump) (o : LoadOptions) (stop : Option Nat) (told : Nat) : List LoadEvent × LoadOutcome :=
  let start := d.opening o
  let (stopped, h) := gather o d.form stop (told + start.length) (d.meter o) d.items
  if stopped then (start ++ h.events, .stopped)
  else (start ++ h.events ++ closing, finished o h)

end Dump

inductive LoadFault where
  | unreadable
  | json (e : Json.Fault)
  | missing (m : MissingData)
deriving DecidableEq

structure LoadReport where
  events : List LoadEvent
  result : Except LoadFault LoadOutcome

namespace LoadReport

def ofJsonAfter (events : List LoadEvent) (o : LoadOptions) (stop : Option Nat) (root : Json) : LoadReport :=
  match Dump.ofJson root with
  | .error m => ⟨events, .error (.missing m)⟩
  | .ok d =>
    let (more, outcome) := d.load o stop events.length
    ⟨events ++ more, .ok outcome⟩

def ofTextAfter (events : List LoadEvent) (o : LoadOptions) (stop : Option Nat) (s : List Char) : LoadReport :=
  match Json.decode Json.Read.value s with
  | .error e => ⟨events, .error (.json e)⟩
  | .ok root => ofJsonAfter events o stop root

def ofJson (o : LoadOptions) (stop : Option Nat) (root : Json) : LoadReport := ofJsonAfter [] o stop root

def ofText (o : LoadOptions) (stop : Option Nat) (s : List Char) : LoadReport := ofTextAfter [] o stop s

def ofFile (o : LoadOptions) (stop : Option Nat) (name : String) (octets : Option Text.Octets) : LoadReport :=
  let start := [LoadEvent.stage (.opening name), LoadEvent.progress .unknown]
  match octets.bind Text.ofOctets? with
  | none => ⟨start, .error .unreadable⟩
  | some s => ofTextAfter (start ++ [.stage (.parsing name)]) o stop s

end LoadReport

end Deckwright
