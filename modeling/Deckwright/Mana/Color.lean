import Deckwright.Misread
import Deckwright.Text.Blank
import Deckwright.Text.Case
set_option autoImplicit false

namespace Deckwright

inductive Color where
  | white
  | blue
  | black
  | red
  | green
deriving DecidableEq

namespace Color

def all : List Color := [.white, .blue, .black, .red, .green]

def name : Color → String
  | .white => "White"
  | .blue => "Blue"
  | .black => "Black"
  | .red => "Red"
  | .green => "Green"

def letter : Color → Char
  | .white => 'W'
  | .blue => 'U'
  | .black => 'B'
  | .red => 'R'
  | .green => 'G'

def ofLetter? (c : Char) : Option Color := all.find? fun color => color.letter = c.toUpper

def ofName? (s : List Char) : Option Color :=
  all.find? fun color => Text.asciiLower color.name.toList = Text.asciiLower s

def read (s : String) : Except Misread Color :=
  let found :=
    match Text.trim s.toList with
    | [c] => ofLetter? c
    | word => ofName? word
  match found with
  | some color => .ok color
  | none => .error (.color s)

def bit : Color → UInt8
  | .white => 1
  | .blue => 2
  | .black => 4
  | .red => 8
  | .green => 16

end Color

-- Stored sets may carry further bits; they belong to no color but tell sets apart.
structure ColorSet where
  mask : UInt8
deriving DecidableEq

namespace ColorSet

def colorless : ColorSet := ⟨0⟩

instance : Inhabited ColorSet := ⟨colorless⟩

def insert (s : ColorSet) (c : Color) : ColorSet := ⟨s.mask ||| c.bit⟩

def ofList (cs : List Color) : ColorSet := cs.foldl insert colorless

def contains (s : ColorSet) (c : Color) : Bool := s.mask &&& c.bit != 0

def union (s t : ColorSet) : ColorSet := ⟨s.mask ||| t.mask⟩

def intersects (s t : ColorSet) : Bool := s.mask &&& t.mask != 0

def isSubset (s t : ColorSet) : Bool := s.mask &&& ~~~t.mask == 0

def isEmpty (s : ColorSet) : Bool := s.mask == 0

def size (s : ColorSet) : Nat := ((List.range 8).filter fun i => s.mask.toNat.testBit i).length

def toList (s : ColorSet) : List Color := Color.all.filter s.contains

def letters (s : ColorSet) : List Char := s.toList.map Color.letter

def toText (s : ColorSet) : String := String.ofList s.letters

def readLetters : List Char → Except Misread ColorSet
  | [] => .ok colorless
  | c :: rest =>
    if Text.isBlank c then readLetters rest
    else
      match Color.ofLetter? c with
      | none => .error (.colorLetter c)
      | some color => (readLetters rest).map (union (colorless.insert color))

def read (s : String) : Except Misread ColorSet := readLetters s.toList

end ColorSet

end Deckwright
