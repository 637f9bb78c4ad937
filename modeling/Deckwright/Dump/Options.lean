import Deckwright.Deck.Format
set_option autoImplicit false

namespace Deckwright

structure LoadOptions where
  needsMultiverseId : Bool
  warnsMissingArtist : Bool
  progressStep : UInt8
  knownFormats : List String
deriving DecidableEq

namespace LoadOptions

def standard : LoadOptions := ⟨true, true, 1, FormatRules.names⟩

instance : Inhabited LoadOptions := ⟨standard⟩

def withProgressStep (o : LoadOptions) (step : UInt8) : LoadOptions := { o with progressStep := max step 1 }

def knows (o : LoadOptions) (format : String) : Bool :=
  o.knownFormats.any fun known => Text.eqAsciiCase known format

def toJson (o : LoadOptions) : Json :=
  .record [
    ("require_multiverse_id", .bool o.needsMultiverseId),
    ("warn_missing_artist", .bool o.warnsMissingArtist),
    ("progress_step", .ofNat o.progressStep.toNat),
    ("known_formats", .texts o.knownFormats)]

structure Parts where
  needsMultiverseId : Option Bool := none
  warnsMissingArtist : Option Bool := none
  progressStep : Option UInt8 := none
  knownFormats : Option (List String) := none

def Parts.options (p : Parts) : LoadOptions :=
  ⟨p.needsMultiverseId.getD standard.needsMultiverseId, p.warnsMissingArtist.getD standard.warnsMissingArtist,
    p.progressStep.getD standard.progressStep, p.knownFormats.getD standard.knownFormats⟩

def stepReader : Json.Reader UInt8 := fun levels d =>
  (Json.Read.natural 255 levels d).map UInt8.ofNat

def reader : Json.Reader LoadOptions :=
  Json.Read.record
    [Json.Read.slot "require_multiverse_id" Parts.needsMultiverseId
        (fun p v => { p with needsMultiverseId := some v }) Json.Read.bool,
      Json.Read.slot "warn_missing_artist" Parts.warnsMissingArtist
        (fun p v => { p with warnsMissingArtist := some v }) Json.Read.bool,
      Json.Read.slot "progress_step" Parts.progressStep
        (fun p v => { p with progressStep := some v }) stepReader,
      Json.Read.slot "known_formats" Parts.knownFormats
        (fun p v => { p with knownFormats := some v }) (Json.Read.list Json.Read.text)]
    {} fun _ p => some p.options

end LoadOptions

end Deckwright
