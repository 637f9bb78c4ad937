import Deckwright.Binary64.Basic
import Deckwright.Text.Letter
set_option autoImplicit false

namespace Deckwright.Binary64

-- Outside these bounds the answer needs no arithmetic: the largest number is below
-- 10^309 and half the smallest is above 10^-324.
def nearestDecimal (digits : Nat) (exponent : Int) : Nat :=
  if digits = 0 then 0
  else if exponent > 400 then infinityBits
  else if exponent < -(400 + (digits.log2 : Int) + 1) then 0
  else if 0 ≤ exponent then nearest (digits * Nat.pow 10 exponent.toNat * oneGrains) 1
  else nearest (digits * oneGrains) (Nat.pow 10 (-exponent).toNat)

def ofDecimal (negative : Bool) (digits : Nat) (exponent : Int) : Binary64 :=
  ofMagnitude negative (nearestDecimal digits exponent)

inductive ReadFault where
  | empty
  | invalid
deriving DecidableEq

def ReadFault.message : ReadFault → String
  | .empty => "cannot parse float from empty string"
  | .invalid => "invalid float literal"

def digitValue (c : Char) : Nat := c.toNat - '0'.toNat

def ofDigits (cs : List Char) : Nat := cs.foldl (fun n c => n * 10 + digitValue c) 0

def takeDigits (s : List Char) : List Char × List Char :=
  (s.takeWhile Text.isAsciiDigit, s.dropWhile Text.isAsciiDigit)

def takeSign : List Char → Bool × List Char
  | '-' :: s => (true, s)
  | '+' :: s => (false, s)
  | s => (false, s)

def takeFraction : List Char → List Char × List Char
  | '.' :: s => takeDigits s
  | s => ([], s)

def readExponent : List Char → Option Int
  | [] => some 0
  | c :: s =>
    if c = 'e' || c = 'E' then
      let (negative, s) := takeSign s
      let (digits, rest) := takeDigits s
      if digits.isEmpty || !rest.isEmpty then none
      else some (if negative then -(ofDigits digits : Int) else (ofDigits digits : Int))
    else none

def readUnsigned (negative : Bool) (s : List Char) : Option Binary64 :=
  let word := s.map Char.toLower
  if word = ['i', 'n', 'f'] || word = ['i', 'n', 'f', 'i', 'n', 'i', 't', 'y'] then
    some (ofMagnitude negative infinityBits)
  else if word = ['n', 'a', 'n'] then some (ofMagnitude negative nan.magnitude)
  else
    let (whole, rest) := takeDigits s
    let (fraction, rest) := takeFraction rest
    if whole.isEmpty && fraction.isEmpty then none
    else
      match readExponent rest with
      | some exponent =>
        some (ofDecimal negative (ofDigits (whole ++ fraction)) (exponent - fraction.length))
      | none => none

def read (s : List Char) : Except ReadFault Binary64 :=
  if s.isEmpty then .error .empty
  else
    let (negative, rest) := takeSign s
    match readUnsigned negative rest with
    | some x => .ok x
    | none => .error .invalid

def placesBelowOne (num den : Nat) : Nat → Nat
  | 0 => 0
  | fuel + 1 => if den ≤ num then 0 else placesBelowOne (num * 10) den fuel + 1

def leadingPlace (g : Nat) : Int :=
  if oneGrains ≤ g then ((Nat.toDigits 10 (g / oneGrains)).length : Int) - 1
  else -(placesBelowOne g oneGrains 400 : Int)

inductive Tie where
  | up
  | even
deriving DecidableEq

def decimalOf? (tie : Tie) (target : Nat) (place : Int) : Option (Nat × Int) :=
  let g := grainsOf target
  let num := if 0 ≤ place then g else g * Nat.pow 10 (-place).toNat
  let den := if 0 ≤ place then oneGrains * Nat.pow 10 place.toNat else oneGrains
  let low := num / den
  let rest := num % den
  let upFirst := den < 2 * rest || (den = 2 * rest && (tie == .up || low % 2 == 1))
  let first := if upFirst then low + 1 else low
  let second := if upFirst then low else low + 1
  if nearestDecimal first place = target then some (first, place)
  else if nearestDecimal second place = target then some (second, place)
  else none

-- The exact expansion ends the search, so that no bound on the digits is needed to
-- know that the result reads back.
def shortestFrom (tie : Tie) (target : Nat) (place : Int) : Nat → Nat × Int
  | 0 => (grainsOf target * Nat.pow 5 1074, -1074)
  | fuel + 1 =>
    match decimalOf? tie target place with
    | some found => found
    | none => shortestFrom tie target (place - 1) fuel

def dropZeros (digits : Nat) (place : Int) : Nat → Nat × Int
  | 0 => (digits, place)
  | fuel + 1 => if digits % 10 = 0 then dropZeros (digits / 10) (place + 1) fuel else (digits, place)

def shortest (tie : Tie) (x : Binary64) : Nat × Int :=
  if x.isZero then (0, 0)
  else
    let (digits, place) := shortestFrom tie x.magnitude (leadingPlace (grainsOf x.magnitude)) 17
    dropZeros digits place 17

def zeros (n : Nat) : List Char := List.replicate n '0'

def positional (digits : Nat) (place : Int) (integerEnding : List Char) : List Char :=
  let ds := Nat.toDigits 10 digits
  if 0 ≤ place then ds ++ zeros place.toNat ++ integerEnding
  else
    let after := (-place).toNat
    if after < ds.length then ds.take (ds.length - after) ++ '.' :: ds.drop (ds.length - after)
    else '0' :: '.' :: zeros (after - ds.length) ++ ds

def signText (x : Binary64) : List Char := if x.negative then ['-'] else []

def text (x : Binary64) : List Char :=
  if x.isNaN then ['N', 'a', 'N']
  else if !x.isFinite then x.signText ++ ['i', 'n', 'f']
  else
    let (digits, place) := shortest .up x
    x.signText ++ positional digits place []

def toText (x : Binary64) : String := String.ofList x.text

def scientific (digits : Nat) (exponent : Int) : List Char :=
  let mantissa :=
    match Nat.toDigits 10 digits with
    | [] => []
    | [d] => [d]
    | d :: ds => d :: '.' :: ds
  let sign := if exponent < 0 then '-' else '+'
  mantissa ++ 'e' :: sign :: Nat.toDigits 10 exponent.natAbs

/-- Text of a finite number that always shows it is not an integer type: a point or
    an exponent. Positional from 10^-5 to 10^16. -/
def pointedText (x : Binary64) : List Char :=
  let (digits, place) := shortest .even x
  let exponent := ((Nat.toDigits 10 digits).length : Int) - 1 + place
  x.signText ++
    if -5 ≤ exponent && exponent < 16 then positional digits place ['.', '0']
    else scientific digits exponent

end Deckwright.Binary64
