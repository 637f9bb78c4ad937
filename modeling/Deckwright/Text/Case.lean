import Deckwright.Text.CaseTable
import Deckwright.Text.Letter
set_option autoImplicit false

namespace Deckwright.Text

def CaseRun.covers (run : CaseRun) (n : Nat) : Bool :=
  run.first ≤ n && n ≤ run.last && (n - run.first) % run.step == 0

def lowerIn (n : Nat) : List CaseRun → Nat
  | [] => n
  | run :: rest =>
    if n < run.first then n
    else if run.covers n then (n + run.shift).toNat
    else lowerIn n rest

def lowerCode (n : Nat) : Nat := lowerIn n lowerRuns

def dottedCapitalI : Char := Char.ofNat 0x130

-- One character only lowers to two: the dotted capital I keeps its dot.
def lowerChar (c : Char) : List Char :=
  if c = dottedCapitalI then ['i', Char.ofNat 0x307] else [Char.ofNat (lowerCode c.toNat)]

def capitalSigma : Char := Char.ofNat 0x3A3

def finalSigma : Char := Char.ofNat 0x3C2

def nextIsCased (s : List Char) : Bool :=
  match s.dropWhile fun c => inRanges c.toNat caseIgnorableRanges with
  | [] => false
  | c :: _ => inRanges c.toNat casedRanges

-- before holds the text already passed, nearest character first.
def lowerFrom (before : List Char) : List Char → List Char
  | [] => []
  | c :: rest =>
    let here :=
      if c = capitalSigma && nextIsCased before && !nextIsCased rest then [finalSigma]
      else lowerChar c
    here ++ lowerFrom (c :: before) rest

def lower (s : List Char) : List Char := lowerFrom [] s

def lowered (s : String) : String := String.ofList (lower s.toList)

def asciiLower (s : List Char) : List Char := s.map Char.toLower

def asciiUpper (s : List Char) : List Char := s.map Char.toUpper

def asciiLowered (s : String) : String := String.ofList (asciiLower s.toList)

def eqAsciiCase (s t : String) : Bool := asciiLower s.toList == asciiLower t.toList

end Deckwright.Text
