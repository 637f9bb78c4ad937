import Deckwright.Dump.Printing
set_option autoImplicit false

namespace Deckwright

inductive Slot where
  | single (p : Printing)
  | faces (key : String) (ps : List Printing)
deriving DecidableEq

inductive FaceProblem where
  | alone
  | layoutsDiffer
  | tooMany
deriving DecidableEq

namespace FaceProblem

def message : FaceProblem → String
  | .alone => "Can't find other face(s) of multi-faced card"
  | .layoutsDiffer => "Can't join faces with different layouts"
  | .tooMany => "Too many faces for card"

end FaceProblem

structure Split where
  card : String
  expansion : Expansion
  problem : FaceProblem
deriving DecidableEq

namespace Slot

def key? : Slot → Option String
  | .single _ => none
  | .faces key _ => some key

def printings : Slot → List Printing
  | .single p => [p]
  | .faces _ ps => ps

def putFace (key : String) (p : Printing) : List Slot → List Slot
  | [] => [.faces key [p]]
  | .single q :: rest => .single q :: putFace key p rest
  | .faces k ps :: rest =>
    if k = key then .faces k (ps ++ [p]) :: rest else .faces k ps :: putFace key p rest

def put (slots : List Slot) (p : Printing) : List Slot :=
  match p.joinKey with
  | some key => putFace key p slots
  | none => slots ++ [.single p]

def ofPrintings (ps : List Printing) : List Slot := ps.foldl put []

end Slot

namespace Printing

def joined (id : CardId) (layout : Layout) (first : Printing) (others : List Printing) : Card :=
  let ps := first :: others
  let card := Card.ofFaces id first.expansion first.rarity (ps.map Printing.face)
  { card.withLegalities first.legality with
    layout := layout
    identity := ps.foldl (fun s p => s.union p.identity) ColorSet.colorless
    manaValue := first.manaValue.getD card.manaValue
    multiverseId := first.multiverseId }

def toCard (p : Printing) (id : CardId) (layout : Layout) : Card := joined id layout p []

def inOrder (ps : List Printing) : List Printing := ps.mergeSort fun p q => p.order ≤ q.order

def manyFaces (layout : Layout) : Bool := layout = .split || layout = .aftermath || layout = .adventure

def faceProblem? (first : Printing) (others : List Printing) : Option FaceProblem :=
  if others.isEmpty then some .alone
  else if others.any fun p => p.layout ≠ first.layout then some .layoutsDiffer
  else if others.length > 1 && !manyFaces first.layout then some .tooMany
  else none

def idOfKey (key : String) : CardId :=
  match Text.cutAt [':'] key.toList with
  | some (_, id) => String.ofList id
  | none => key

def splitFrom (side : Nat) : List Printing → List Card
  | [] => []
  | p :: rest => p.toCard s!"{p.ownId}-{side}" .normal :: splitFrom (side + 1) rest

end Printing

namespace Slot

def cards : Slot → List Card × List Split
  | .single p => ([p.toCard (p.id.getD p.ownId) p.layout], [])
  | .faces key ps =>
    match Printing.inOrder ps with
    | [] => ([], [])
    | first :: others =>
      match Printing.faceProblem? first others with
      | none => ([Printing.joined (Printing.idOfKey key) first.layout first others], [])
      | some problem =>
        (Printing.splitFrom 0 (first :: others), [⟨first.face.name, first.expansion, problem⟩])

end Slot

def assemble (ps : List Printing) : List Card × List Split :=
  let done := (Slot.ofPrintings ps).map Slot.cards
  (done.flatMap Prod.fst, done.flatMap Prod.snd)

end Deckwright
