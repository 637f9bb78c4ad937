import Deckwright.Filter.Operand
set_option autoImplicit false

namespace Deckwright

structure Leaf where
  aspect : Aspect
  mode : Mode
  operand : Operand
deriving DecidableEq

namespace Leaf

def check (a : Aspect) (m : Mode) (o : Operand) : Except FilterFault Unit :=
  if !a.allows m then .error (.mode a.code m.code)
  else if !o.suits a m then .error (.operand a.code o.shown (.unsuited m.code))
  else
    match o.blemish? with
    | some e => .error (.operand a.code o.shown e)
    | none => .ok ()

def make (a : Aspect) (m : Mode) (o : Operand) : Except FilterFault Leaf :=
  (check a m o).map fun _ => ⟨a, m, o⟩

def standardMode (a : Aspect) : Mode :=
  match a.kind with
  | .constant => .always
  | .number => .compare .atLeast
  | _ => .contains .anyOf

def standard (a : Aspect) : Leaf := ⟨a, standardMode a, Operand.standard a (standardMode a)⟩

def set (l : Leaf) (m : Mode) (o : Operand) : Except FilterFault Leaf := make l.aspect m o

def setOperand (l : Leaf) (o : Operand) : Except FilterFault Leaf := l.set l.mode o

def costTest (c : Containment) (held want : ManaCost) : Bool :=
  match c with
  | .anyOf => want.symbols.any fun m => held.count m > 0
  | .allOf => want.symbols.all fun m => held.count m ≥ want.count m
  | .noneOf => !want.symbols.any fun m => held.count m > 0
  | .exactly => held.sortedNames = want.sortedNames

-- A leaf of the checked kinds has an operand that goes with its mode, so the last case
-- never comes up for one.
def test (l : Leaf) (card : Card) : Bool :=
  let a := l.aspect
  match l.mode, l.operand with
  | .always, _ => a = .anyCard
  | .missing, _ => (a.numbers card).any Option.isNone
  | .variable_, _ => (a.numbers card).any fun n => n.any Aspect.Reading.isVariable
  | .compare c, .number x => (a.numbers card).any fun n => n.any fun r => c.test r.value x
  | .contains c, .text s => (a.texts card).any (s.test c)
  | .contains c, .cost want => (a.costs card).any fun held => costTest c held want
  | .contains c, .colors w => (a.colorSets card).any (w.test c)
  | .contains c, .options values =>
    (a.optionLists card).any fun held => c.test held (values.toList.map Text.lowered)
  | .contains c, .rarities values => c.test [card.rarity] values.toList
  | .contains c, .legality w => w.test c card
  | _, _ => false

end Leaf

inductive Filter where
  | leaf (l : Leaf)
  | group (mode : GroupMode) (children : List Filter)

namespace Filter

mutual

def decEq (a b : Filter) : Decidable (a = b) :=
  match a, b with
  | .leaf l, .leaf m => decidable_of_iff (l = m) (by simp)
  | .group m as, .group n bs =>
    haveI := decEqAll as bs
    decidable_of_iff (m = n ∧ as = bs) (by simp)
  | .leaf _, .group _ _ => isFalse (by intro h; cases h)
  | .group _ _, .leaf _ => isFalse (by intro h; cases h)

def decEqAll (as bs : List Filter) : Decidable (as = bs) :=
  match as, bs with
  | [], [] => isTrue rfl
  | a :: as, b :: bs =>
    haveI := decEq a b
    haveI := decEqAll as bs
    decidable_of_iff (a = b ∧ as = bs) (by simp)
  | [], _ :: _ => isFalse (by intro h; cases h)
  | _ :: _, [] => isFalse (by intro h; cases h)

end

instance : DecidableEq Filter := decEq

mutual

def test (card : Card) : Filter → Bool
  | .leaf l => l.test card
  | .group .and fs => testAll card fs
  | .group .or fs => testAny card fs

def testAll (card : Card) : List Filter → Bool
  | [] => true
  | f :: fs => test card f && testAll card fs

def testAny (card : Card) : List Filter → Bool
  | [] => false
  | f :: fs => test card f || testAny card fs

end

theorem test_all (card : Card) (fs : List Filter) : testAll card fs = fs.all (test card) := by
  induction fs with
  | nil => rfl
  | cons f rest ih => rw [testAll, ih, List.all_cons]

theorem test_any (card : Card) (fs : List Filter) : testAny card fs = fs.any (test card) := by
  induction fs with
  | nil => rfl
  | cons f rest ih => rw [testAny, ih, List.any_cons]

def matchesCard (f : Filter) (card : Card) : Bool := test card f

mutual

def leaves : Filter → List Leaf
  | .leaf l => [l]
  | .group _ fs => leavesOfAll fs

def leavesOfAll : List Filter → List Leaf
  | [] => []
  | f :: fs => leaves f ++ leavesOfAll fs

end

theorem leaves_all (fs : List Filter) : leavesOfAll fs = fs.flatMap leaves := by
  induction fs with
  | nil => rfl
  | cons f rest ih => rw [leavesOfAll, ih, List.flatMap_cons]

def everything : Filter := .leaf (Leaf.standard .anyCard)

def nothing : Filter := .leaf (Leaf.standard .noCard)

instance : Inhabited Filter := ⟨everything⟩

def ofLeaf (a : Aspect) (m : Mode) (o : Operand) : Except FilterFault Filter :=
  (Leaf.make a m o).map leaf

def ofText (a : Aspect) (c : Containment) (text : String) : Except FilterFault Filter :=
  match Operand.ofText text with
  | .error e => .error (.operand a.code text e)
  | .ok o => ofLeaf a (.contains c) o

def ofOptions (a : Aspect) (c : Containment) (values : List String) : Except FilterFault Filter :=
  ofLeaf a (.contains c) (Operand.ofOptions values)

def ofRarities (c : Containment) (values : List Rarity) : Filter :=
  .leaf ⟨.rarity, .contains c, .rarities (.ofList values)⟩

def ofColors (a : Aspect) (c : Containment) (colors : ColorSet) (multicolored : Bool) :
    Except FilterFault Filter :=
  ofLeaf a (.contains c) (.colors ⟨colors, multicolored⟩)

def ofCost (c : Containment) (cost : ManaCost) : Filter :=
  .leaf ⟨.manaCost, .contains c, .cost cost⟩

def ofNumber (a : Aspect) (c : Comparison) (x : Binary64) : Except FilterFault Filter :=
  match Operand.ofNumber x with
  | .error e => .error (.operand a.code x.toText e)
  | .ok o => ofLeaf a (.compare c) o

def ofMissing (a : Aspect) : Except FilterFault Filter := ofLeaf a .missing .none

def ofVariable (a : Aspect) : Except FilterFault Filter := ofLeaf a .variable_ .none

def ofLegality (c : Containment) (formats : List String) (restricted : Bool) : Filter :=
  .leaf ⟨.legality, .contains c, Operand.ofFormats formats restricted⟩

def ofGroup (m : GroupMode) (fs : List Filter) : Except FilterFault Filter :=
  if fs.isEmpty then .error .emptyGroup else .ok (.group m fs)

def allOf (fs : List Filter) : Except FilterFault Filter := ofGroup .and fs

def anyOf (fs : List Filter) : Except FilterFault Filter := ofGroup .or fs

def combine (m : GroupMode) (f g : Filter) : Filter :=
  match f with
  | .group n fs => if n = m then .group n (fs ++ [g]) else .group m [f, g]
  | .leaf _ => .group m [f, g]

def and (f g : Filter) : Filter := combine .and f g

def or (f g : Filter) : Filter := combine .or f g

end Filter

end Deckwright
