import Deckwright.Binary64.Basic
import Deckwright.Binary64.Decimal
import Deckwright.Card.Basic
import Deckwright.Card.Characteristic
import Deckwright.Card.Face
import Deckwright.Card.Packed
import Deckwright.Card.Record
import Deckwright.Catalog.Archive
import Deckwright.Catalog.Inventory
import Deckwright.CharSet.Basic
import Deckwright.CharSet.FoldTable
import Deckwright.CharSet.Folding
import Deckwright.Deck.Basic
import Deckwright.Deck.Category
import Deckwright.Deck.Document
import Deckwright.Deck.Fault
import Deckwright.Deck.Format
import Deckwright.Deck.Hand
import Deckwright.Deck.LineFile
import Deckwright.Deck.Swatch
import Deckwright.Deck.View
import Deckwright.Dump.Assembly
import Deckwright.Dump.Basic
import Deckwright.Dump.Load
import Deckwright.Dump.Meter
import Deckwright.Dump.Options
import Deckwright.Dump.Printing
import Deckwright.Filter.Aspect
import Deckwright.Filter.Basic
import Deckwright.Filter.Bracketed
import Deckwright.Filter.Edit
import Deckwright.Filter.Fault
import Deckwright.Filter.Mode
import Deckwright.Filter.Operand
import Deckwright.Filter.Record
import Deckwright.Filter.Search
import Deckwright.Filter.Unknown
import Deckwright.Json.Decoder
import Deckwright.Json.Draft
import Deckwright.Json.Printer
import Deckwright.Json.Value
import Deckwright.Mana.Color
import Deckwright.Mana.Cost
import Deckwright.Misread
import Deckwright.Ordered
import Deckwright.Pattern.Basic
import Deckwright.Pattern.Bracket
import Deckwright.Pattern.Escape
import Deckwright.Pattern.Machine
import Deckwright.Pattern.Reader
import Deckwright.Pattern.Room
import Deckwright.Proofs.Binary64.Decimal
import Deckwright.Proofs.Binary64.Nearest
import Deckwright.Proofs.Deck.Consistency
import Deckwright.Proofs.Deck.Count
import Deckwright.Proofs.Deck.Interleaving
import Deckwright.Proofs.Deck.LineFile
import Deckwright.Proofs.Deck.Lines
import Deckwright.Proofs.Deck.Moves
import Deckwright.Proofs.Dump.Course
import Deckwright.Proofs.Filter.Bracket
import Deckwright.Proofs.Filter.Bracketed
import Deckwright.Proofs.Filter.Canonical
import Deckwright.Proofs.Filter.Edit
import Deckwright.Proofs.Filter.Operand
import Deckwright.Proofs.Filter.Record
import Deckwright.Proofs.Json.Lookup
import Deckwright.Proofs.Mana.Color
import Deckwright.Proofs.Mana.Cost
import Deckwright.Proofs.Mana.Spelling
import Deckwright.Proofs.Ordered
import Deckwright.Proofs.Outcome
import Deckwright.Proofs.Text.Blank
import Deckwright.Proofs.Text.Case
import Deckwright.Proofs.Text.Escape
import Deckwright.Proofs.Text.Natural
import Deckwright.Proofs.Text.Utf8
import Deckwright.Property.Age
import Deckwright.Property.AgeTable
import Deckwright.Property.Basic
import Deckwright.Property.Break
import Deckwright.Property.GeneralCategory
import Deckwright.Property.GeneralCategoryTable
import Deckwright.Property.Script
import Deckwright.Property.ScriptTable
import Deckwright.Property.SharedScriptTable
import Deckwright.Property.Trait
import Deckwright.Property.TraitTable
import Deckwright.Random.ChaCha
import Deckwright.Text.Blank
import Deckwright.Text.Case
import Deckwright.Text.CaseTable
import Deckwright.Text.Escape
import Deckwright.Text.Letter
import Deckwright.Text.LetterTable
import Deckwright.Text.Natural
import Deckwright.Text.Plain
import Deckwright.Text.Search
import Deckwright.Text.Utf8
import Deckwright.Proofs.Dump.Isolation
import Deckwright.Proofs.Json.Grammar
import Deckwright.Proofs.Json.Printer
import Deckwright.Proofs.Filter.Nesting
import Deckwright.Proofs.Deck.Document
import Deckwright.Proofs.Card.Packed
import Deckwright.Proofs.Filter.WellFormed
import Deckwright.Proofs.Catalog.Archive
import Deckwright.Proofs.Deck.Record
import Deckwright.Proofs.Text.Plain
import Deckwright.Proofs.Text.Search
import Deckwright.Proofs.Filter.Search
import Deckwright.Proofs.Dump.Progress
import Deckwright.Proofs.Dump.Assembly
import Deckwright.Proofs.Dump.Sets
import Deckwright.Proofs.Deck.Placement
import Deckwright.Proofs.Filter.Depth
import Deckwright.Proofs.Filter.Grammar
import Deckwright.Proofs.Card.OwnName
import Deckwright.Proofs.Deck.Report
import Deckwright.Proofs.Deck.Ledger
import Deckwright.Proofs.Deck.View
import Deckwright.Proofs.Deck.CopyLimit
import Deckwright.Proofs.Deck.Tally
import Deckwright.Proofs.Deck.Layout
import Deckwright.Proofs.Text.Token
import Deckwright.Proofs.Text.Ascii
import Deckwright.Proofs.Filter.Bag
import Deckwright.Proofs.Filter.Containment
import Deckwright.Proofs.Filter.Grouping
import Deckwright.Proofs.Filter.Formats
import Deckwright.Proofs.Filter.Unknown
import Deckwright.Proofs.Dump.Conservation
import Deckwright.Proofs.Dump.JoinKey
import Deckwright.Proofs.Deck.Legality
import Deckwright.Proofs.Deck.Hand
import Deckwright.Proofs.Catalog.Inventory
import Deckwright.Proofs.Binary64.Sum
import Deckwright.Proofs.Text.Separation
import Deckwright.Proofs.Text.Terms
import Deckwright.Proofs.Card.Stat
import Deckwright.Proofs.Mana.Value
import Deckwright.Proofs.Card.Record
