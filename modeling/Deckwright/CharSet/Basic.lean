import Deckwright.Text.Letter
set_option autoImplicit false

/- Sets of characters by code point: ranges in increasing order that neither meet nor
   touch, so that every set is written in one way only. -/
namespace Deckwright

structure CharSet where
  ranges : List (Nat × Nat)
deriving DecidableEq

namespace CharSet

def contains (s : CharSet) (n : Nat) : Bool := Text.inRanges n s.ranges

def none : CharSet := ⟨[]⟩

def lastCode : Nat := 0x10FFFF

def any : CharSet := ⟨[(0, lastCode)]⟩

def range (first last : Nat) : CharSet := ⟨[(first, last)]⟩

def char (c : Char) : CharSet := range c.toNat c.toNat

def mergeFrom : List (Nat × Nat) → List (Nat × Nat) → List (Nat × Nat)
  | [], rs => rs
  | q :: qs, [] => q :: qs
  | q :: qs, r :: rs =>
    if q.1 ≤ r.1 then q :: mergeFrom qs (r :: rs) else r :: mergeFrom (q :: qs) rs
termination_by qs rs => qs.length + rs.length

def joinFrom (r : Nat × Nat) : List (Nat × Nat) → List (Nat × Nat)
  | [] => [r]
  | q :: qs => if q.1 ≤ r.2 + 1 then joinFrom (r.1, max r.2 q.2) qs else r :: joinFrom q qs

def joined : List (Nat × Nat) → List (Nat × Nat)
  | [] => []
  | r :: rs => joinFrom r rs

def ofSorted (rs : List (Nat × Nat)) : CharSet := ⟨joined rs⟩

def ofRanges (rs : List (Nat × Nat)) : CharSet := ofSorted (rs.mergeSort fun q r => q.1 ≤ r.1)

def ofCodes (ns : List Nat) : CharSet := ofRanges (ns.map fun n => (n, n))

def either (s t : CharSet) : CharSet := ofSorted (mergeFrom s.ranges t.ranges)

def gapsFrom (first : Nat) : List (Nat × Nat) → List (Nat × Nat)
  | [] => if first ≤ lastCode then [(first, lastCode)] else []
  | r :: rs => if first < r.1 then (first, r.1 - 1) :: gapsFrom (r.2 + 1) rs else gapsFrom (r.2 + 1) rs

def outside (s : CharSet) : CharSet := ⟨gapsFrom 0 s.ranges⟩

def both (s t : CharSet) : CharSet := (s.outside.either t.outside).outside

def without (s t : CharSet) : CharSet := s.both t.outside

def onlyOne (s t : CharSet) : CharSet := (s.without t).either (t.without s)

def unionOf (sets : List CharSet) : CharSet := ofRanges (sets.flatMap CharSet.ranges)

end CharSet

structure NamedSet where
  names : List String
  set : CharSet

def NamedSet.find? (table : List NamedSet) (name : String) : Option CharSet :=
  (table.find? fun t => t.names.contains name).map NamedSet.set

end Deckwright
