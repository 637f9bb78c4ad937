import Deckwright.Binary64.Decimal
import Deckwright.Text.Utf8
import Deckwright.Json.Value
set_option autoImplicit false

/- A draft goes up to the place where the text stops being JSON, so that a fault of form and a fault of
   content are met in the order in which they stand. The text is read octet by octet, each octet as the
   character of its number; what a string stands for is found at its end. -/
namespace Deckwright.Json

inductive Draft where
  | null
  | bool (b : Bool)
  | integer (n : Int)
  | real (x : Binary64)
  | hugeNumber
  | text (s : String)
  | noText
  | list (items : List Draft) (closed : Bool)
  | record (fields : List (Option String × Draft)) (closed : Bool)
  | broken

def isSpace (c : Char) : Bool := c = ' ' || c = '\n' || c = '\t' || c = '\r'

def skipSpace (s : List Char) : List Char := s.dropWhile isSpace

def hexValue? (c : Char) : Option Nat :=
  let n := c.toNat
  if '0' ≤ c && c ≤ '9' then some (n - '0'.toNat)
  else if 'a' ≤ c && c ≤ 'f' then some (n - 'a'.toNat + 10)
  else if 'A' ≤ c && c ≤ 'F' then some (n - 'A'.toNat + 10)
  else none

def hex4? (a b c d : Char) : Option Nat := do
  let a ← hexValue? a
  let b ← hexValue? b
  let c ← hexValue? c
  let d ← hexValue? d
  return ((a * 16 + b) * 16 + c) * 16 + d

inductive Piece where
  | octet (b : UInt8)
  | unit (n : Nat)

def shortEscape? (c : Char) : Option Char :=
  match c with
  | '"' => some '"'
  | '\\' => some '\\'
  | '/' => some '/'
  | 'b' => some (Char.ofNat 8)
  | 'f' => some (Char.ofNat 12)
  | 'n' => some '\n'
  | 'r' => some '\r'
  | 't' => some '\t'
  | _ => none

def pieces : List Char → Option (List Piece × List Char)
  | [] => none
  | '"' :: s => some ([], s)
  | '\\' :: 'u' :: a :: b :: c :: d :: s =>
    match hex4? a b c d with
    | some n => (pieces s).map fun (ps, rest) => (.unit n :: ps, rest)
    | none => none
  | '\\' :: e :: s =>
    match shortEscape? e with
    | some c => (pieces s).map fun (ps, rest) => (.octet (Text.octet c.toNat) :: ps, rest)
    | none => none
  | c :: s =>
    if c.toNat < 32 || c = '\\' then none
    else (pieces s).map fun (ps, rest) => (.octet (Text.octet c.toNat) :: ps, rest)

def isHighSurrogate (n : Nat) : Bool := 0xD800 ≤ n && n < 0xDC00

def isLowSurrogate (n : Nat) : Bool := 0xDC00 ≤ n && n < 0xE000

-- A high and a low unit in a row are one character; either alone is none.
def joinPieces : List Piece → Option Text.Octets
  | [] => some []
  | .octet b :: ps => (joinPieces ps).map (b :: ·)
  | .unit h :: .unit l :: ps =>
    if isHighSurrogate h then
      if isLowSurrogate l then
        (joinPieces ps).map
          (Text.charOctets (Char.ofNat (0x10000 + (h - 0xD800) * 1024 + (l - 0xDC00))) ++ ·)
      else none
    else if isLowSurrogate h then none
    else (joinPieces (.unit l :: ps)).map (Text.charOctets (Char.ofNat h) ++ ·)
  | .unit n :: ps =>
    if isHighSurrogate n || isLowSurrogate n then none
    else (joinPieces ps).map (Text.charOctets (Char.ofNat n) ++ ·)

def stringOf? (ps : List Piece) : Option String :=
  ((joinPieces ps).bind Text.ofOctets?).map String.ofList

def largestWord : Nat := 0xFFFFFFFFFFFFFFFF

def takeWord (n : Nat) : List Char → Nat × List Char
  | [] => (n, [])
  | d :: ds =>
    let next := n * 10 + Binary64.digitValue d
    if largestWord < next then (n, d :: ds) else takeWord next ds

def powerOfTen (n : Nat) : Binary64 := Binary64.ofDecimal false 1 (n : Int)

def scaleDown (x : Binary64) (n : Nat) : Binary64 :=
  if h : n ≤ 308 then x.divFinite (powerOfTen n)
  else if x.isZero then x
  else scaleDown (x.divFinite (powerOfTen 308)) (n - 308)
termination_by n

/-- A word times a power of ten. Both are rounded and then their product or quotient
    is, so the answer may differ in its last bit from the nearest number. -/
def scaled (negative : Bool) (word : Nat) (exponent : Int) : Option Binary64 :=
  let x := Binary64.ofNat word
  let y? :=
    if exponent < 0 then some (scaleDown x exponent.natAbs)
    else if exponent ≤ 308 then
      let y := x.mulFinite (powerOfTen exponent.natAbs)
      if y.isFinite then some y else none
    else if x.isZero then some x
    else none
  y?.map fun y => if negative then y.neg else y

def realDraft (negative : Bool) (word : Nat) (exponent : Int) : Draft :=
  match scaled negative word exponent with
  | some x => .real x
  | none => .hugeNumber

def integerDraft (negative : Bool) (digits : List Char) : Draft :=
  let (word, left) := takeWord 0 digits
  if !left.isEmpty then realDraft negative word left.length
  else if !negative then .integer word
  else if word = 0 || 0x8000000000000000 < word then .real (Binary64.ofNat word).neg
  else .integer (-(word : Int))

def decimalDraft (negative : Bool) (whole fraction : List Char) (exponent : Int) : Draft :=
  let (word, left) := takeWord 0 whole
  let (full, dropped) := takeWord word fraction
  realDraft negative full (left.length - ((fraction.length - dropped.length : Nat) : Int) + exponent)

def wholePart : List Char → Option (List Char × List Char)
  | '0' :: s => if (s.head?.map Text.isAsciiDigit).getD false then none else some (['0'], s)
  | s =>
    let (digits, rest) := Binary64.takeDigits s
    if digits.isEmpty then none else some (digits, rest)

def fractionPart : List Char → Option (Option (List Char) × List Char)
  | '.' :: s =>
    let (digits, rest) := Binary64.takeDigits s
    if digits.isEmpty then none else some (some digits, rest)
  | s => some (none, s)

def exponentPart : List Char → Option (Option Int × List Char)
  | [] => some (none, [])
  | e :: s =>
    if e = 'e' || e = 'E' then
      let (negative, s) := Binary64.takeSign s
      let (digits, rest) := Binary64.takeDigits s
      if digits.isEmpty then none
      else
        let n := (Binary64.ofDigits digits : Int)
        some (some (if negative then -n else n), rest)
    else some (none, e :: s)

def numberDraft (negative : Bool) (s : List Char) : Option (Draft × List Char) := do
  let (whole, s) ← wholePart s
  let (fraction, s) ← fractionPart s
  let (exponent, s) ← exponentPart s
  match fraction, exponent with
  | none, none => return (integerDraft negative whole, s)
  | _, _ => return (decimalDraft negative whole (fraction.getD []) (exponent.getD 0), s)

def textDraft (ps : List Piece) : Draft :=
  match stringOf? ps with
  | some t => .text t
  | none => .noText

def scalarDraft (s : List Char) : Option (Draft × List Char) :=
  match s with
  | '"' :: s => (pieces s).map fun (ps, rest) => (textDraft ps, rest)
  | 'n' :: 'u' :: 'l' :: 'l' :: s => some (.null, s)
  | 't' :: 'r' :: 'u' :: 'e' :: s => some (.bool true, s)
  | 'f' :: 'a' :: 'l' :: 's' :: 'e' :: s => some (.bool false, s)
  | '-' :: s => numberDraft true s
  | s => numberDraft false s

-- Each of these gives the draft and the text after it; there is no text after a break.
mutual

def draftFrom : Nat → List Char → Draft × Option (List Char)
  | 0, _ => (.broken, none)
  | fuel + 1, s =>
    match skipSpace s with
    | '[' :: s =>
      match skipSpace s with
      | ']' :: s => (.list [] true, some s)
      | s =>
        let (items, rest) := itemsFrom fuel s
        (.list items rest.isSome, rest)
    | '{' :: s =>
      match skipSpace s with
      | '}' :: s => (.record [] true, some s)
      | s =>
        let (fields, rest) := fieldsFrom fuel s
        (.record fields rest.isSome, rest)
    | s =>
      match scalarDraft s with
      | some (d, rest) => (d, some rest)
      | none => (.broken, none)

def itemsFrom : Nat → List Char → List Draft × Option (List Char)
  | 0, _ => ([], none)
  | fuel + 1, s =>
    match draftFrom fuel s with
    | (d, none) => ([d], none)
    | (d, some s) =>
      match skipSpace s with
      | ']' :: s => ([d], some s)
      | ',' :: s =>
        let (ds, rest) := itemsFrom fuel s
        (d :: ds, rest)
      | _ => ([d], none)

def fieldsFrom : Nat → List Char → List (Option String × Draft) × Option (List Char)
  | 0, _ => ([], none)
  | fuel + 1, s =>
    match skipSpace s with
    | '"' :: s =>
      match pieces s with
      | none => ([], none)
      | some (ps, s) =>
        let key := stringOf? ps
        match skipSpace s with
        | ':' :: s =>
          match draftFrom fuel s with
          | (d, none) => ([(key, d)], none)
          | (d, some s) =>
            match skipSpace s with
            | '}' :: s => ([(key, d)], some s)
            | ',' :: s =>
              let (fs, rest) := fieldsFrom fuel s
              ((key, d) :: fs, rest)
            | _ => ([(key, d)], none)
        | _ => ([(key, .broken)], none)
    | _ => ([], none)

end

def draft (octets : Text.Octets) : Draft × Bool :=
  let s := octets.map fun b => Char.ofNat b.toNat
  match draftFrom (2 * s.length + 2) s with
  | (d, some rest) => (d, (skipSpace rest).isEmpty)
  | (d, none) => (d, false)

mutual

def Draft.ofJson : Json → Draft
  | .null => .null
  | .bool b => .bool b
  | .integer n => .integer n
  | .real x => .real x
  | .text s => .text s
  | .list items => .list (draftsOfItems items) true
  | .record fields =>
    .record ((OrderedMap.ofList (draftsOfFields fields)).entries.map fun e => (some e.1, e.2)) true

def draftsOfItems : List Json → List Draft
  | [] => []
  | j :: rest => Draft.ofJson j :: draftsOfItems rest

def draftsOfFields : List (String × Json) → List (String × Draft)
  | [] => []
  | (k, j) :: rest => (k, Draft.ofJson j) :: draftsOfFields rest

end

end Deckwright.Json
