import Deckwright.Catalog.Inventory
import Deckwright.Deck.Basic
import Deckwright.Filter.Bracketed
import Deckwright.Text.Utf8
set_option autoImplicit false

/- Decks as lines of text: the number of entries, a line for each with the id, a tab and
   the count, then the number of categories and a line for each:

     name <id:id> <id> filter

   with the cards forced in, the cards kept out and the bracketed filter. Signs that
   divide a line are escaped in names and ids, and so are line breaks and tabs. -/
namespace Deckwright

namespace Deck

def natText (n : Nat) : List Char := Nat.toDigits 10 n

def entryLine (e : Entry) : List Char :=
  Text.escape Text.idSpecials e.id.toList ++ '\t' :: natText e.count.toNat

def idList (ids : List CardId) : List Char :=
  '<' :: Text.joinWith [':'] (ids.map fun id => Text.escape Text.lineSpecials id.toList) ++ ['>']

def categoryLine (c : CategorySpec) : List Char :=
  Text.escape Text.lineSpecials c.name.toList ++ ' ' :: idList c.whitelist ++ ' ' :: idList c.blacklist ++
    ' ' :: c.filter.written

def lines (d : Deck) : List (List Char) :=
  natText d.size :: d.entries.map entryLine ++
    natText d.categories.length :: d.categories.map fun c => categoryLine c.toSpec

def toLineFile (d : Deck) : List Char := d.lines.flatMap fun l => l ++ ['\n']

end Deck

namespace LineFile

open Text (Octets)

def newLine : UInt8 := 10

def carriageReturn : UInt8 := 13

-- A carriage return counts as part of the line break behind it.
def endLine (reversed : Octets) : Octets :=
  match reversed with
  | [] => []
  | b :: rest => if b = carriageReturn then rest.reverse else (b :: rest).reverse

-- reversed holds the line so far. There is no line behind the last line break.
def octetLinesFrom (reversed : Octets) : Octets → List Octets
  | [] => if reversed.isEmpty then [] else [reversed.reverse]
  | b :: s => if b = newLine then endLine reversed :: octetLinesFrom [] s else octetLinesFrom (b :: reversed) s

def lines (s : Octets) : List (Option (List Char)) := (octetLinesFrom [] s).map Text.ofOctets?

structure Rest where
  number : Nat
  lines : List (Option (List Char))

def Rest.next (r : Rest) : Except DeckFault (List Char × Rest) :=
  match r.lines with
  | [] => .error (.line 0 .fileEnd)
  | none :: _ => .error .notText
  | some l :: lines => .ok (l, ⟨r.number + 1, lines⟩)

def sizeLimit : Nat := 0xFFFFFFFFFFFFFFFF

def readCount (number : Nat) (l : List Char) : Except DeckFault Nat :=
  let word := Text.trim l
  match Text.readNatural sizeLimit word with
  | .ok n => .ok n
  | .error _ => .error (.line number (.countExpected (String.ofList word)))

def readCopies (number : Nat) (s : List Char) : Except DeckFault UInt32 :=
  let word := Text.trim s
  match Text.readNatural (UInt32.size - 1) word with
  | .ok 0 => .error (.line number .noCopies)
  | .ok n => .ok (UInt32.ofNat n)
  | .error e => .error (.line number (.copies (String.ofList word) e))

def readEntry (inventory : Inventory) (d : Deck) (number : Nat) (l : List Char) : Except DeckFault Deck :=
  match Text.cutAt ['\t'] (Text.trimEnd l) with
  | none => .error (.line number .entryExpected)
  | some (front, back) =>
    let id := String.ofList (Text.unescape front)
    match readCopies number back with
    | .error e => .error e
    | .ok n =>
      match inventory.get? id with
      | none => .error (.unknownCard id)
      | some card =>
        match d.add card n with
        | (d, true) => .ok d
        | (_, false) => .error (.line number (.tooMany id))

def readEntries (inventory : Inventory) : Nat → Deck → Rest → Except DeckFault (Deck × Rest)
  | 0, d, r => .ok (d, r)
  | n + 1, d, r =>
    match r.next with
    | .error e => .error e
    | .ok (l, rest) =>
      match readEntry inventory d r.number l with
      | .error e => .error e
      | .ok d => readEntries inventory n d rest

def takeIds (s : List Char) : Except LineFault (List CardId × List Char) :=
  match Text.trimStart s with
  | '<' :: s =>
    match Text.cutUnescaped '>' s with
    | none => .error .listUnclosed
    | some ([], rest) => .ok ([], rest)
    | some (inner, rest) =>
      .ok ((Text.splitUnescaped ':' inner).map fun id => String.ofList (Text.unescape id), rest)
  | _ => .error .listExpected

-- One blank stands between the name and the lists; any before it belong to the name.
def dropBlankEnd (s : List Char) : List Char :=
  if s.getLast? = some ' ' then s.dropLast else s

def readCategory (number : Nat) (l : List Char) : Except DeckFault CategorySpec :=
  match Text.cutUnescaped '<' l with
  | none => .error (.line number .noLists)
  | some (front, back) =>
    let name := String.ofList (Text.unescape (dropBlankEnd front))
    match takeIds ('<' :: back) with
    | .error e => .error (.line number e)
    | .ok (whitelist, rest) =>
      match takeIds rest with
      | .error e => .error (.line number e)
      | .ok (blacklist, rest) =>
        match Filter.read (Text.trim rest) with
        | .error e => .error (.filter e)
        | .ok filter => .ok ⟨name, filter, whitelist, blacklist, Swatch.black⟩

def readCategories : Nat → Deck → Rest → Except DeckFault Deck
  | 0, d, _ => .ok d
  | n + 1, d, r =>
    match r.next with
    | .error e => .error e
    | .ok (l, rest) =>
      match readCategory r.number l with
      | .error e => .error e
      | .ok spec =>
        match d.addCategory spec with
        | .error e => .error e
        | .ok (d, _) => readCategories n d rest

def read (inventory : Inventory) (lines : List (Option (List Char))) : Except DeckFault Deck :=
  let start : Rest := ⟨1, lines⟩
  match start.next with
  | .error e => .error e
  | .ok (l, r) =>
    match readCount 1 l with
    | .error e => .error e
    | .ok n =>
      match readEntries inventory n Deck.empty r with
      | .error e => .error e
      | .ok (d, r) =>
        match r.next with
        | .error e => .error e
        | .ok (l, rest) =>
          match readCount r.number l with
          | .error e => .error e
          | .ok n => readCategories n d rest

end LineFile

def Deck.ofLineFile (inventory : Inventory) (s : Text.Octets) : Except DeckFault Deck :=
  LineFile.read inventory (LineFile.lines s)

end Deckwright
