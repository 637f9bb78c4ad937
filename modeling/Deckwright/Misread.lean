set_option autoImplicit false

namespace Deckwright

inductive Misread where
  | color (s : String)
  | colorLetter (c : Char)
  | rarity (s : String)
  | legality (s : String)
  | layout (s : String)
  | swatch (s : String)
  | emptySymbol
  | symbol (s : String)
  | symbolExpected (s : String)
  | symbolUnclosed (s : String)
deriving DecidableEq

namespace Misread

def message : Misread → String
  | .color s => s!"unknown color \"{s}\""
  | .colorLetter c => s!"unknown color letter '{c}'"
  | .rarity s => s!"unknown rarity \"{s}\""
  | .legality s => s!"unknown legality \"{s}\""
  | .layout s => s!"unknown layout \"{s}\""
  | .swatch s => s!"expected a #RRGGBB color, got \"{s}\""
  | .emptySymbol => "empty mana symbol"
  | .symbol s => "invalid mana symbol \x7b" ++ s ++ "\x7d"
  | .symbolExpected s => "expected '\x7b' in mana cost \"" ++ s ++ "\""
  | .symbolUnclosed s => "unclosed symbol in mana cost \"" ++ s ++ "\""

end Misread

end Deckwright
