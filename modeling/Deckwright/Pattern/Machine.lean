import Deckwright.Pattern.Basic
set_option autoImplicit false

/- Patterns as machines. A machine is a row of states; it is in several of them at once
   and passes over the text one time, so no pattern makes it go back. -/
namespace Deckwright

/-- What a state does: go on past a character of a set, or without one go on if a
    condition holds, go on in two ways, or be done. -/
inductive Move where
  | one (s : CharSet) (next : Nat)
  | look (l : Look) (next : Nat)
  | fork (next other : Nat)
  | done

abbrev Machine := Array Move

namespace Machine

abbrev Built := Nat × Machine

def add (m : Machine) (move : Move) : Built := (m.size, m.push move)

def copies (piece : Nat → Machine → Built) : Nat → Nat → Machine → Built
  | 0, next, m => (next, m)
  | n + 1, next, m =>
    let (entry, m) := piece next m
    copies piece n entry m

def choices (piece : Nat → Machine → Built) (after : Nat) : Nat → Nat → Machine → Built
  | 0, next, m => (next, m)
  | n + 1, next, m =>
    let (entry, m) := piece next m
    let (entry, m) := m.add (.fork entry after)
    choices piece after n entry m

-- One piece, and as many more as there are. The fork behind it comes first, so that the
-- piece can lead to it; whoever needs no piece at all begins at the fork.
def loop (piece : Nat → Machine → Built) (atFork : Bool) (next : Nat) (m : Machine) : Built :=
  let fork := m.size
  let (entry, m) := piece fork (m.push (.fork next next))
  (if atFork then fork else entry, m.setIfInBounds fork (.fork entry next))

/-- Builds the states of a pattern in front of a state that follows them. A text of n
    characters has n + 1 places, so among more than n matches in a row one is empty and
    the count can go up or down by it: no count above n + 1, the limit, tells more. -/
def build (limit : Nat) : Pattern → Nat → Machine → Built
  | .empty, next, m => (next, m)
  | .one s, next, m => m.add (.one s next)
  | .look l, next, m => m.add (.look l next)
  | .seq p q, next, m =>
    let (entry, m) := build limit q next m
    build limit p entry m
  | .either p q, next, m =>
    let (one, m) := build limit p next m
    let (other, m) := build limit q next m
    m.add (.fork one other)
  | .repeated p least most, next, m =>
    match most with
    | none =>
      let (entry, m) := loop (build limit p) (least = 0) next m
      copies (build limit p) (min (least - 1) limit) entry m
    | some most =>
      let (entry, m) := choices (build limit p) next (min (most - least) limit) next m
      copies (build limit p) (min least limit) entry m

structure Front where
  waiting : List (CharSet × Nat)
  done : Bool

-- Follows every way that needs no character. Each state is followed once, and puts two
-- more on the stack at the most.
def spread (m : Machine) (before after : Option Char) :
    Nat → List Nat → Array Bool → List (CharSet × Nat) → Front
  | 0, _, _, waiting => ⟨waiting, false⟩
  | _ + 1, [], _, waiting => ⟨waiting, false⟩
  | fuel + 1, q :: stack, seen, waiting =>
    if seen.getD q true then spread m before after fuel stack seen waiting
    else
      let seen := seen.setIfInBounds q true
      match m[q]? with
      | some .done => ⟨waiting, true⟩
      | some (.one s next) => spread m before after fuel stack seen ((s, next) :: waiting)
      | some (.look l next) =>
        spread m before after fuel (if l.holds before after then next :: stack else stack) seen waiting
      | some (.fork next other) => spread m before after fuel (next :: other :: stack) seen waiting
      | none => spread m before after fuel stack seen waiting

def front (m : Machine) (before after : Option Char) (states : List Nat) : Front :=
  spread m before after (states.length + 2 * m.size + 1) states (Array.replicate m.size false) []

def runFrom (m : Machine) (start : Nat) (before : Option Char) (states : List Nat) : List Char → Bool
  | [] => (m.front before none (start :: states)).done
  | c :: text =>
    let here := m.front before (some c) (start :: states)
    here.done ||
      runFrom m start (some c)
        (here.waiting.filterMap fun (s, next) => if s.contains c.toNat then some next else none) text

end Machine

def Pattern.occursIn (p : Pattern) (text : List Char) : Bool :=
  let (start, m) := Machine.build (text.length + 1) p 0 #[.done]
  m.runFrom start none [] text

end Deckwright
