import Deckwright.Text.Letter
set_option autoImplicit false

namespace Deckwright.Text

inductive NaturalFault where
  | empty
  | invalidDigit
  | tooLarge
deriving DecidableEq

def NaturalFault.message : NaturalFault → String
  | .empty => "cannot parse integer from empty string"
  | .invalidDigit => "invalid digit found in string"
  | .tooLarge => "number too large to fit in target type"

-- The first digit that leads beyond the limit is reported before what follows it.
def naturalFrom (limit n : Nat) : List Char → Except NaturalFault Nat
  | [] => .ok n
  | c :: s =>
    if !isAsciiDigit c then .error .invalidDigit
    else
      let next := n * 10 + (c.toNat - '0'.toNat)
      if next ≤ limit then naturalFrom limit next s else .error .tooLarge

def readNatural (limit : Nat) (s : List Char) : Except NaturalFault Nat :=
  match s with
  | [] => .error .empty
  | ['+'] => .error .invalidDigit
  | '+' :: s => naturalFrom limit 0 s
  | s => naturalFrom limit 0 s

end Deckwright.Text
