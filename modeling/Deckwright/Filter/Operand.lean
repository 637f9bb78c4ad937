import Deckwright.Filter.Aspect
import Deckwright.Filter.Fault
import Deckwright.Filter.Search
set_option autoImplicit false

namespace Deckwright

structure ColorWish where
  colors : ColorSet
  multicolored : Bool
deriving DecidableEq

namespace ColorWish

def test (w : ColorWish) (c : Containment) (held : ColorSet) : Bool :=
  let found :=
    match c with
    | .anyOf => held.intersects w.colors
    | .allOf => w.colors.isSubset held
    | .noneOf => !held.intersects w.colors
    | .exactly => held = w.colors
  found && (!w.multicolored || held.size > 1)

end ColorWish

structure FormatWish where
  formats : OrderedSet String
  restricted : Bool
deriving DecidableEq

def trimmedSet (values : List String) : OrderedSet String :=
  .ofList ((values.map Text.trimmed).filter fun v => !v.isEmpty)

namespace FormatWish

def ofNames (names : List String) (restricted : Bool) : FormatWish where
  formats := .ofList ((names.map fun n => Text.lowered (Text.trimmed n)).filter fun n => !n.isEmpty)
  restricted := restricted

def counts (w : FormatWish) (l : Legality) : Bool :=
  if w.restricted then l = .restricted else l.isLegal

def test (w : FormatWish) (c : Containment) (card : Card) : Bool :=
  c.test ((card.legality.entries.filter fun e => w.counts e.2).map Prod.fst) w.formats.toList

end FormatWish

inductive Operand where
  | none
  | text (s : Search)
  | cost (c : ManaCost)
  | number (x : Binary64)
  | colors (w : ColorWish)
  | options (values : OrderedSet String)
  | rarities (values : OrderedSet Rarity)
  | legality (w : FormatWish)
deriving DecidableEq

namespace Operand

def ofNumber (x : Binary64) : Except OperandFault Operand :=
  if x.isFinite then .ok (.number (if x.isZero then Binary64.zero else x))
  else .error (.notFinite x)

def ofText (s : String) : Except OperandFault Operand :=
  match Search.ofText? s with
  | some search => .ok (.text search)
  | Option.none => .error .pattern

def ofOptions (values : List String) : Operand := .options (trimmedSet values)

def ofFormats (names : List String) (restricted : Bool) : Operand :=
  .legality (FormatWish.ofNames names restricted)

def suits (o : Operand) (a : Aspect) (m : Mode) : Bool :=
  match a.kind, o with
  | .constant, .none => true
  | .number, .none => m.isExistence
  | .number, .number _ => m.isComparison
  | .text, .text _ => true
  | .cost, .cost _ => true
  | .colors, .colors _ => true
  | .options, .options _ => true
  | .rarity, .rarities _ => true
  | .legality, .legality _ => true
  | _, _ => false

-- What keeps the operand from being written and read back as itself.
def blemish? : Operand → Option OperandFault
  | .number x =>
    if !x.isFinite then some (.notFinite x)
    else if x.isZero && x.negative then some .minusZero
    else Option.none
  | .options values =>
    (values.toList.find? fun v => v.isEmpty || Text.trimmed v != v).map OperandFault.option
  | _ => Option.none

def standard (a : Aspect) (m : Mode) : Operand :=
  match a.kind with
  | .text => .text Search.empty
  | .cost => .cost ManaCost.free
  | .number => if m.isComparison then .number Binary64.zero else .none
  | .constant => .none
  | .colors => .colors ⟨ColorSet.colorless, false⟩
  | .options => .options ∅
  | .rarity => .rarities ∅
  | .legality => .legality ⟨∅, false⟩

def listed (values : List String) : String := ", ".intercalate values

def braced (s : String) : String := "\x7b" ++ s ++ "\x7d"

def shown : Operand → String
  | .none => ""
  | .text s => s.text
  | .cost c => c.toText
  | .number x => x.toText
  | .colors w =>
    if w.multicolored then braced w.colors.toText ++ " (multicolored)" else braced w.colors.toText
  | .options values => listed values.toList
  | .rarities values => listed (values.toList.map Rarity.name)
  | .legality w =>
    if w.restricted then listed w.formats.toList ++ " (restricted)" else listed w.formats.toList

end Operand

end Deckwright
