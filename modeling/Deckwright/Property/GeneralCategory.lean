import Deckwright.Property.GeneralCategoryTable
set_option autoImplicit false

namespace Deckwright.GeneralCategory

def casedLetter : CharSet := .unionOf [uppercaseLetter, lowercaseLetter, titlecaseLetter]

def letter : CharSet := .unionOf [casedLetter, modifierLetter, otherLetter]

def mark : CharSet := .unionOf [nonspacingMark, spacingMark, enclosingMark]

def number : CharSet := .unionOf [decimalNumber, letterNumber, otherNumber]

def punctuation : CharSet :=
  .unionOf [connectorPunctuation, dashPunctuation, openPunctuation, closePunctuation,
    initialPunctuation, finalPunctuation, otherPunctuation]

def symbol : CharSet := .unionOf [mathSymbol, currencySymbol, modifierSymbol, otherSymbol]

def separator : CharSet := .unionOf [spaceSeparator, lineSeparator, paragraphSeparator]

def assigned : CharSet := .unionOf (assignedCategories.map NamedSet.set)

def unassigned : CharSet := assigned.outside

def other : CharSet := (CharSet.unionOf [letter, mark, number, punctuation, symbol, separator]).outside

def groups : List NamedSet :=
  [⟨["l", "letter"], letter⟩,
    ⟨["lc", "casedletter"], casedLetter⟩,
    ⟨["m", "mark", "combiningmark"], mark⟩,
    ⟨["n", "number"], number⟩,
    ⟨["p", "punctuation", "punct"], punctuation⟩,
    ⟨["s", "symbol"], symbol⟩,
    ⟨["z", "separator"], separator⟩,
    ⟨["c", "other"], other⟩,
    ⟨["cn", "unassigned"], unassigned⟩,
    ⟨["any"], .any⟩,
    ⟨["assigned"], assigned⟩,
    ⟨["ascii"], .range 0 127⟩]

def find? (name : String) : Option CharSet := NamedSet.find? (groups ++ assignedCategories) name

end Deckwright.GeneralCategory
