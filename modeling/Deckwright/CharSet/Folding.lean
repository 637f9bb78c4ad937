import Deckwright.CharSet.Basic
import Deckwright.CharSet.FoldTable
set_option autoImplicit false

namespace Deckwright

def Text.CaseRun.codes (run : CaseRun) : List Nat :=
  (List.range ((run.last - run.first) / run.step + 1)).map fun i => run.first + i * run.step

def Text.CaseRun.pairs (run : CaseRun) : List (Nat × Nat) :=
  run.codes.map fun (n : Nat) => ((n + run.shift).toNat, n)

def Text.foldPairs : List (Nat × Nat) := foldRuns.flatMap CaseRun.pairs

def Text.foldGroups : List (List Nat) :=
  ((foldPairs.mergeSort fun p q => p.1 ≤ q.1).splitBy fun p q => p.1 == q.1).map fun group =>
    (group.head?.map Prod.fst).toList ++ group.map Prod.snd

def Text.twins : List (Nat × List Nat) :=
  (foldGroups.flatMap fun group => group.map fun n => (n, group)).mergeSort fun p q => p.1 ≤ q.1

def Text.asciiTwins : List (Nat × List Nat) :=
  (List.range 26).map (fun i => (65 + i, [97 + i])) ++ (List.range 26).map fun i => (97 + i, [65 + i])

namespace CharSet

def twinsIn : List (Nat × List Nat) → List (Nat × Nat) → List Nat
  | [], _ => []
  | _, [] => []
  | (n, twins) :: more, r :: rs =>
    if n < r.1 then twinsIn more (r :: rs)
    else if n ≤ r.2 then twins ++ twinsIn more (r :: rs)
    else twinsIn ((n, twins) :: more) rs
termination_by more rs => more.length + rs.length

def folded (s : CharSet) : CharSet := s.either (ofCodes (twinsIn Text.twins s.ranges))

def asciiFolded (s : CharSet) : CharSet := s.either (ofCodes (twinsIn Text.asciiTwins s.ranges))

end CharSet

end Deckwright
