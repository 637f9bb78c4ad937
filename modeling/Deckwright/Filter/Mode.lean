import Deckwright.Binary64.Decimal
import Deckwright.Text.Case
import Deckwright.Text.Escape
import Deckwright.Text.Search
set_option autoImplicit false

namespace Deckwright

inductive Containment where
  | anyOf
  | allOf
  | noneOf
  | exactly
deriving DecidableEq

namespace Containment

def all : List Containment := [.anyOf, .allOf, .noneOf, .exactly]

def code : Containment → String
  | .anyOf => "a"
  | .allOf => "c"
  | .noneOf => "n"
  | .exactly => "e"

def description : Containment → String
  | .anyOf => "contains any of"
  | .allOf => "contains all of"
  | .noneOf => "contains none of"
  | .exactly => "contains exactly"

def test {α : Type} [DecidableEq α] (c : Containment) (held want : List α) : Bool :=
  match c with
  | .anyOf => want.any fun w => held.contains w
  | .allOf => want.all fun w => held.contains w
  | .noneOf => !want.any fun w => held.contains w
  | .exactly => (want.all fun w => held.contains w) && held.all fun h => want.contains h

end Containment

inductive Comparison where
  | less
  | atMost
  | equal
  | atLeast
  | more
  | unequal
deriving DecidableEq

namespace Comparison

def all : List Comparison := [.less, .atMost, .equal, .atLeast, .more, .unequal]

def symbol : Comparison → String
  | .less => "<"
  | .atMost => "<="
  | .equal => "="
  | .atLeast => ">="
  | .more => ">"
  | .unequal => "!="

def tolerance : Binary64 := Binary64.ofDecimal false 1 (-9)

-- Numbers closer than the tolerance count as equal. An infinity is not close even to
-- itself, its distance from itself being no number.
def near (x y : Binary64) : Bool := (x.sub y).abs.lt tolerance

def test (c : Comparison) (value operand : Binary64) : Bool :=
  let equal := near value operand
  match c with
  | .less => value.lt operand && !equal
  | .atMost => value.lt operand || equal
  | .equal => equal
  | .atLeast => operand.lt value || equal
  | .more => operand.lt value && !equal
  | .unequal => !equal

end Comparison

inductive Mode where
  | contains (c : Containment)
  | compare (c : Comparison)
  | missing
  | variable_
  | always
deriving DecidableEq

namespace Mode

-- Longer codes first, so that none hides one that it begins.
def coded : List Mode :=
  [.compare .atMost, .compare .atLeast, .compare .unequal, .compare .less, .compare .more,
    .compare .equal, .contains .anyOf, .contains .allOf, .contains .noneOf, .contains .exactly,
    .missing, .variable_]

def code : Mode → String
  | .contains c => c.code
  | .compare c => c.symbol
  | .missing => "?"
  | .variable_ => "*"
  | .always => ""

def description : Mode → String
  | .contains c => c.description
  | .compare c => c.symbol
  | .missing => "does not exist"
  | .variable_ => "is variable"
  | .always => ""

def ofCode? (code : String) : Option Mode := coded.find? fun m => m.code = code

def written (m : Mode) : List Char := Text.escape Text.bracketSpecials m.code.toList

def take? (s : List Char) : Option (Mode × List Char) :=
  coded.findSome? fun m => (Text.after? m.written s).map fun rest => (m, rest)

def isExistence : Mode → Bool
  | .missing | .variable_ => true
  | _ => false

def isComparison : Mode → Bool
  | .compare _ => true
  | _ => false

end Mode

inductive GroupMode where
  | and
  | or
deriving DecidableEq

namespace GroupMode

def all : List GroupMode := [.and, .or]

def standard : GroupMode := .and

def keyword : GroupMode → String
  | .and => "AND"
  | .or => "OR"

def description : GroupMode → String
  | .and => "all of"
  | .or => "any of"

def ofKeyword? (word : String) : Option GroupMode := all.find? fun m => Text.eqAsciiCase word m.keyword

end GroupMode

end Deckwright
