import Deckwright.Binary64.Decimal
import Deckwright.Mana.Color
import Deckwright.Text.Search
set_option autoImplicit false

namespace Deckwright

structure ManaSymbol where
  name : String
deriving DecidableEq

namespace ManaSymbol

def letterParts : List String :=
  ["W", "U", "B", "R", "G", "C", "S", "X", "Y", "Z", "P", "T", "Q", "E",
    "∞", "½", "HW", "HU", "HB", "HR", "HG"]

def isPart (part : List Char) : Bool :=
  !part.isEmpty && (letterParts.contains (String.ofList part) || part.all Text.isAsciiDigit)

def read (s : List Char) : Except Misread ManaSymbol :=
  let upper := Text.asciiUpper (Text.trim s)
  if upper.isEmpty then .error .emptySymbol
  else if (Text.splitOn '/' upper).all isPart then .ok ⟨String.ofList upper⟩
  else .error (.symbol (String.ofList s))

def number? (s : List Char) : Option Binary64 := (Binary64.read s).toOption

def half : Binary64 := Binary64.ofDecimal false 5 (-1)

-- What the symbol adds to a mana value. One that can be paid in two ways counts as
-- its dearer numeric half, and as one if that is less.
def value (m : ManaSymbol) : Binary64 :=
  match number? m.name.toList with
  | some n => n
  | none =>
    if ["X", "Y", "Z", "T", "Q", "E"].contains m.name then Binary64.zero
    else if m.name = "∞" then Binary64.infinity
    else if ["½", "HW", "HU", "HB", "HR", "HG"].contains m.name then half
    else if m.name.toList.contains '/' then
      ((Text.splitOn '/' m.name.toList).filterMap number?).foldl Binary64.max Binary64.one
    else Binary64.one

def colors (m : ManaSymbol) : ColorSet :=
  ColorSet.ofList ((m.name.toList.filter fun c => c != 'P').filterMap Color.ofLetter?)

def text (m : ManaSymbol) : List Char := '{' :: m.name.toList ++ ['}']

end ManaSymbol

structure ManaCost where
  symbols : List ManaSymbol
deriving DecidableEq

namespace ManaCost

def free : ManaCost := ⟨[]⟩

instance : Inhabited ManaCost := ⟨free⟩

-- opened holds the text since an open brace, last character first.
def symbolsFrom (whole : String) : Option (List Char) → List Char → Except Misread (List ManaSymbol)
  | none, [] => .ok []
  | some _, [] => .error (.symbolUnclosed whole)
  | none, c :: s =>
    if Text.isBlank c then symbolsFrom whole none s
    else if c = '{' then symbolsFrom whole (some []) s
    else .error (.symbolExpected whole)
  | some opened, c :: s =>
    if c = '}' then
      match ManaSymbol.read opened.reverse with
      | .error e => .error e
      | .ok m => (symbolsFrom whole none s).map (m :: ·)
    else symbolsFrom whole (some (c :: opened)) s

-- A symbol that is never closed is reported before anything is said of its inside.
def read (s : String) : Except Misread ManaCost :=
  (symbolsFrom s none (Text.trim s.toList)).map ManaCost.mk

def isEmpty (c : ManaCost) : Bool := c.symbols.isEmpty

def manaValue (c : ManaCost) : Binary64 := Binary64.sum (c.symbols.map ManaSymbol.value)

def colors (c : ManaCost) : ColorSet :=
  c.symbols.foldl (fun s m => s.union m.colors) ColorSet.colorless

def count (c : ManaCost) (m : ManaSymbol) : Nat := c.symbols.count m

def sortedNames (c : ManaCost) : List String :=
  (c.symbols.map ManaSymbol.name).mergeSort fun a b => (compare a b).isLE

def text (c : ManaCost) : List Char := c.symbols.flatMap ManaSymbol.text

def toText (c : ManaCost) : String := String.ofList c.text

end ManaCost

end Deckwright
