import Deckwright.Pattern.Basic
import Deckwright.Text.Utf8
set_option autoImplicit false

/- How much room a pattern takes when every count in it is written out, as a machine that
   reads a text octet by octet from its end; a pattern may not take more than the limit.

   A state takes 32 octets of room, a way out of a choice 4, a range in a class of ASCII
   characters 8. -/
namespace Deckwright

abbrev OctetRow := List (Nat × Nat)

namespace OctetRow

def spread (mark : Nat) : Nat → Nat → Nat → List OctetRow
  | 0, first, last => [[(mark + first, mark + last)]]
  | places + 1, first, last =>
    let unit := Nat.pow 64 (places + 1)
    let low := first / unit
    let high := last / unit
    let behind (n : Nat) (rows : List OctetRow) : List OctetRow := rows.map ((mark + n, mark + n) :: ·)
    if low = high then behind low (spread 0x80 places (first % unit) (last % unit))
    else
      let opening := first % unit != 0
      let closing := last % unit != unit - 1
      let firstFull := if opening then low + 1 else low
      let lastFull := if closing then high - 1 else high
      let free := List.replicate (places + 1) (0x80, 0xBF)
      (if opening then behind low (spread 0x80 places (first % unit) (unit - 1)) else []) ++
        (if firstFull ≤ lastFull then [(mark + firstFull, mark + lastFull) :: free] else []) ++
        (if closing then behind high (spread 0x80 places 0 (last % unit)) else [])

def lengths : List (Nat × Nat × Nat × Nat) :=
  [(0, 0x7F, 0, 0), (0x80, 0x7FF, 1, 0xC0), (0x800, 0xD7FF, 2, 0xE0), (0xE000, 0xFFFF, 2, 0xE0),
    (0x10000, 0x10FFFF, 3, 0xF0)]

def ofRange (r : Nat × Nat) : List OctetRow :=
  lengths.flatMap fun (first, last, places, mark) =>
    let low := max r.1 first
    let high := min r.2 last
    if low ≤ high then spread mark places low high else []

def ofSet (s : CharSet) : List OctetRow := s.ranges.flatMap ofRange

def sharedLength : OctetRow → OctetRow → Nat
  | r :: rs, q :: qs => if r = q then sharedLength rs qs + 1 else 0
  | _, _ => 0

-- Rows that begin alike share the states of their beginnings.
def roomFrom (earlier : OctetRow) : List OctetRow → Nat
  | [] => 0
  | row :: rows => 32 * (row.length - sharedLength earlier row) + 4 + roomFrom row rows

end OctetRow

def CharSet.isAscii (s : CharSet) : Bool := s.ranges.all fun r => r.2 < 0x80

def CharSet.only? (s : CharSet) : Option Nat :=
  match s.ranges with
  | [(first, last)] => if first = last then some first else Option.none
  | _ => Option.none

def CharSet.room (s : CharSet) : Nat :=
  match s.only? with
  | some n => 32 * (Text.charOctets (Char.ofNat n)).length
  | Option.none =>
    if s.isAscii then 64 + 8 * s.ranges.length else 64 + OctetRow.roomFrom [] (OctetRow.ofSet s)

namespace Pattern

def alwaysEmpty : Pattern → Bool
  | .empty | .look _ => true
  | .one _ => false
  | .seq p q | .either p q => alwaysEmpty p && alwaysEmpty q
  | .repeated p _ most => alwaysEmpty p || most = some 0

def maybeEmpty : Pattern → Bool
  | .empty | .look _ => true
  | .one _ => false
  | .seq p q => maybeEmpty p && maybeEmpty q
  | .either p q => maybeEmpty p || maybeEmpty q
  | .repeated p least _ => maybeEmpty p || least = 0

def class? : Pattern → Option CharSet
  | .one s => some s
  | .either p q => do return (← class? p).either (← class? q)
  | _ => none

def repeatedRoom (piece : Nat) (maybeEmpty : Bool) (least : Nat) : Option Nat → Nat
  | none =>
    if 0 < least then least * piece + 40 else if maybeEmpty then piece + 112 else piece + 40
  | some most =>
    if most = 0 then 32
    else if least = 0 && most = 1 then piece + 72
    else if least = most then least * piece
    else max 32 (least * piece) + 32 + (most - least) * (piece + 40)

-- Choices within a choice are branches of the outermost.
def roomIn (choice : Bool) : Pattern → Nat
  | .either p q =>
    match class? (.either p q) with
    | some s => s.room + if choice then 4 else 0
    | none => roomIn true p + roomIn true q + if choice then 0 else 64
  | .repeated p least most =>
    let piece := roomIn false p
    let room :=
      if alwaysEmpty p then repeatedRoom piece true (min least 1) (some (min (most.getD 1) 1))
      else repeatedRoom piece (maybeEmpty p) least most
    room + if choice then 4 else 0
  | .seq p q => roomIn false p + roomIn false q + if choice then 4 else 0
  | .one s => s.room + if choice then 4 else 0
  | .empty | .look _ => if choice then 36 else 32

def room (p : Pattern) : Nat := roomIn false p

def roomLimit : Nat := 10 * 1024 * 1024

end Pattern

end Deckwright
