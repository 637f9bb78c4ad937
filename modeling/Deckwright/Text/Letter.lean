import Deckwright.Text.LetterTable
set_option autoImplicit false

namespace Deckwright.Text

def inRanges (n : Nat) : List (Nat × Nat) → Bool
  | [] => false
  | (first, last) :: rest =>
    if n < first then false
    else if n ≤ last then true
    else inRanges n rest

def isLetter (c : Char) : Bool := inRanges c.toNat letterRanges

def isDigit (c : Char) : Bool := inRanges c.toNat digitRanges

def isAlphanumeric (c : Char) : Bool :=
  isLetter c || isDigit c || inRanges c.toNat otherNumberRanges

def isAsciiDigit (c : Char) : Bool := '0' ≤ c && c ≤ '9'

def isAsciiLetter (c : Char) : Bool := ('a' ≤ c && c ≤ 'z') || ('A' ≤ c && c ≤ 'Z')

end Deckwright.Text
