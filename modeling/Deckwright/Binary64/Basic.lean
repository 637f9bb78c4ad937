set_option autoImplicit false

/- Every finite number is a whole multiple of the smallest positive one, its grain: one is oneGrains grains.
   Arithmetic is exact on grains and rounds once at the end, to the nearest number, a tie going to the even one. -/
namespace Deckwright

structure Binary64 where
  bits : UInt64
deriving DecidableEq

namespace Binary64

def signBit : Nat := 0x8000000000000000

def infinityBits : Nat := 0x7FF0000000000000

def exponentUnit : Nat := 0x10000000000000

def oneGrains : Nat := Nat.pow 2 1074

def ofMagnitude (negative : Bool) (magnitude : Nat) : Binary64 :=
  ⟨UInt64.ofNat (magnitude + if negative then signBit else 0)⟩

def negative (x : Binary64) : Bool := signBit ≤ x.bits.toNat

-- The bits without the sign. As numbers they are in the order of the magnitudes.
def magnitude (x : Binary64) : Nat := x.bits.toNat % signBit

def isNaN (x : Binary64) : Bool := infinityBits < x.magnitude

def isFinite (x : Binary64) : Bool := x.magnitude < infinityBits

def isZero (x : Binary64) : Bool := x.magnitude == 0

def zero : Binary64 := ofMagnitude false 0

def infinity : Binary64 := ofMagnitude false infinityBits

def nan : Binary64 := ofMagnitude false 0x7FF8000000000000

def grainsOf (magnitude : Nat) : Nat :=
  if magnitude < exponentUnit then magnitude
  else (exponentUnit + magnitude % exponentUnit) * Nat.pow 2 (magnitude / exponentUnit - 1)

def grains (x : Binary64) : Int :=
  if x.negative then -(grainsOf x.magnitude : Int) else (grainsOf x.magnitude : Int)

def divideToEven (num den : Nat) : Nat :=
  let q := num / den
  let r := num % den
  if 2 * r < den then q
  else if den < 2 * r then q + 1
  else q + q % 2

-- The magnitude nearest to num / den grains. Beyond the first 53 bits the quotient is
-- cut off in steps of a power of two; a carry out of the last step moves into the
-- exponent by itself.
def nearest (num den : Nat) : Nat :=
  let spare := (num / den).log2 - 52
  min (spare * exponentUnit + divideToEven num (den * Nat.pow 2 spare)) infinityBits

def ofNat (n : Nat) : Binary64 := ofMagnitude false (nearest (n * oneGrains) 1)

def one : Binary64 := ofNat 1

def neg (x : Binary64) : Binary64 := ofMagnitude (!x.negative) x.magnitude

def abs (x : Binary64) : Binary64 := ofMagnitude false x.magnitude

def add (x y : Binary64) : Binary64 :=
  if x.isNaN then x
  else if y.isNaN then y
  else if !x.isFinite then
    if !y.isFinite && x.negative != y.negative then nan else x
  else if !y.isFinite then y
  else
    let sum := x.grains + y.grains
    if sum = 0 then ofMagnitude (x.negative && y.negative) 0
    else ofMagnitude (sum < 0) (nearest sum.natAbs 1)

def sub (x y : Binary64) : Binary64 := x.add y.neg

def mulFinite (x y : Binary64) : Binary64 :=
  ofMagnitude (x.negative != y.negative) (nearest (x.grains.natAbs * y.grains.natAbs) oneGrains)

def divFinite (x y : Binary64) : Binary64 :=
  ofMagnitude (x.negative != y.negative) (nearest (x.grains.natAbs * oneGrains) y.grains.natAbs)

def rank (x : Binary64) : Int :=
  if x.negative then -(x.magnitude : Int) else (x.magnitude : Int)

def lt (x y : Binary64) : Bool := !x.isNaN && !y.isNaN && x.rank < y.rank

-- The larger of two numbers; one that is not a number gives way.
def max (x y : Binary64) : Binary64 :=
  if x.isNaN then y
  else if y.isNaN then x
  else if x.lt y then y
  else x

def minusZero : Binary64 := ofMagnitude true 0

-- Minus zero is what leaves every number as it is when added, so it is the sum of none.
def sum (xs : List Binary64) : Binary64 := xs.foldl add minusZero

def unsignedZero (x : Binary64) : Binary64 := x.add zero

end Binary64

end Deckwright
