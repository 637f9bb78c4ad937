import Deckwright.Pattern.Basic
import Deckwright.Property.Basic
import Deckwright.Text.Blank
set_option autoImplicit false

namespace Deckwright.Pattern

structure Flags where
  ignoreCase : Bool
  multiLine : Bool
  dotAll : Bool
  crlf : Bool
  allScripts : Bool
  spaced : Bool
deriving DecidableEq

namespace Flags

def standard : Flags := ⟨true, false, false, false, true, false⟩

def skipFrom : Bool → List Char → List Char
  | _, [] => []
  | true, c :: s => skipFrom (c != '\n') s
  | false, c :: s =>
    if Text.isBlank c then skipFrom false s
    else if c = '#' then skipFrom true s
    else c :: s

def skip (flags : Flags) (s : List Char) : List Char :=
  if flags.spaced then skipFrom false s else s

def fold (flags : Flags) (s : CharSet) : CharSet :=
  if !flags.ignoreCase then s
  else if flags.allScripts then s.folded
  else s.asciiFolded

def negate? (flags : Flags) (negated : Bool) (s : CharSet) : Option CharSet :=
  if !negated then some s
  else if flags.allScripts then some s.outside
  else none

def word (flags : Flags) : CharSet :=
  if flags.allScripts then Trait.word else ⟨[(48, 57), (65, 90), (95, 95), (97, 122)]⟩

def digit (flags : Flags) : CharSet :=
  if flags.allScripts then GeneralCategory.decimalNumber else .range 48 57

def blank (flags : Flags) : CharSet :=
  if flags.allScripts then Trait.whiteSpace else ⟨[(9, 13), (32, 32)]⟩

end Flags

inductive Atom where
  | char (c : Char) (octet : Bool)
  | set (s : CharSet)
  | look (l : Look)

def isAscii (c : Char) : Bool := c.toNat < 0x80

namespace Atom

def member? (flags : Flags) : Atom → Option Char
  | .char c _ => if flags.allScripts || isAscii c then some c else none
  | _ => none

def set? (flags : Flags) : Atom → Option CharSet
  | .set s => some s
  | a => (a.member? flags).map CharSet.char

def pattern? (flags : Flags) : Atom → Option Pattern
  | .char c octet =>
    if octet && !flags.allScripts && !isAscii c then none else some (.one (flags.fold (.char c)))
  | .set s => some (.one s)
  | .look l => some (.look l)

end Atom

def hexValue? (c : Char) : Option Nat :=
  let n := c.toNat
  if '0' ≤ c && c ≤ '9' then some (n - '0'.toNat)
  else if 'a' ≤ c && c ≤ 'f' then some (n - 'a'.toNat + 10)
  else if 'A' ≤ c && c ≤ 'F' then some (n - 'A'.toNat + 10)
  else none

def scalar? (n : Nat) : Option Char := if n.isValidChar then some (Char.ofNat n) else none

def hexDigits (flags : Flags) (n : Nat) : Nat → List Char → Option (Nat × List Char)
  | 0, s => some (n, s)
  | width + 1, s =>
    match s with
    | [] => none
    | c :: rest =>
      match hexValue? c with
      | none => none
      | some d => hexDigits flags (n * 16 + d) width (flags.skip rest)

def hexUntilBrace (flags : Flags) (n count : Nat) : Nat → List Char → Option (Nat × Nat × List Char)
  | 0, _ => none
  | fuel + 1, s =>
    match s with
    | [] => none
    | c :: rest =>
      if c = '}' then some (n, count, rest)
      else
        match hexValue? c with
        | none => none
        | some d => hexUntilBrace flags (n * 16 + d) (count + 1) fuel (flags.skip rest)

def hexEscape (flags : Flags) (width : Nat) (s : List Char) : Option (Atom × List Char) :=
  match flags.skip s with
  | [] => none
  | '{' :: rest => do
    let (n, count, rest) ← hexUntilBrace flags 0 0 (rest.length + 1) (flags.skip rest)
    if count = 0 then none else return (.char (← scalar? n) false, flags.skip rest)
  | s => do
    let (n, rest) ← hexDigits flags 0 width s
    return (.char (← scalar? n) (width = 2), rest)

def isMeta (c : Char) : Bool := "\\.+*?()|[]\x7b\x7d^$#&-~".toList.contains c

def isQuotable (c : Char) : Bool :=
  isMeta c || (isAscii c && !Text.isAsciiLetter c && !Text.isAsciiDigit c && c != '<' && c != '>')

def wordLook? (flags : Flags) (name : List Char) : Option Look :=
  if name = "start".toList then some (.wordStart flags.word)
  else if name = "end".toList then some (.wordEnd flags.word)
  else if name = "start-half".toList then some (.noWordBefore flags.word)
  else if name = "end-half".toList then some (.noWordAfter flags.word)
  else none

def isLookName (c : Char) : Bool := Text.isAsciiLetter c || c = '-'

def lookName (flags : Flags) : Nat → List Char → List Char × List Char
  | 0, s => ([], s)
  | fuel + 1, s =>
    match s with
    | [] => ([], [])
    | c :: rest =>
      if isLookName c then
        let (name, rest) := lookName flags fuel (flags.skip rest)
        (c :: name, rest)
      else ([], c :: rest)

-- Behind \b a brace with a name in it picks a kind of edge; any other brace is a count.
def wordEdge (flags : Flags) (s : List Char) : Option (Atom × List Char) :=
  let plain := some (Atom.look (.wordEdge flags.word), s)
  match s with
  | '{' :: rest =>
    match flags.skip rest with
    | [] => none
    | c :: rest =>
      if isLookName c then
        match lookName flags (rest.length + 1) (c :: rest) with
        | (name, '}' :: rest) => (wordLook? flags name).map fun l => (.look l, rest)
        | _ => none
      else plain
  | _ => plain

def control? (c : Char) : Option Char :=
  match c with
  | 'a' => some (Char.ofNat 7)
  | 'f' => some (Char.ofNat 12)
  | 't' => some '\t'
  | 'n' => some '\n'
  | 'r' => some '\r'
  | 'v' => some (Char.ofNat 11)
  | _ => none

def shortClass? (flags : Flags) (c : Char) : Option (Option CharSet) :=
  match c with
  | 'd' => some (some flags.digit)
  | 's' => some (some flags.blank)
  | 'w' => some (some flags.word)
  | 'D' => some (flags.negate? true flags.digit)
  | 'S' => some (flags.negate? true flags.blank)
  | 'W' => some (flags.negate? true flags.word)
  | _ => none

def untilBrace (flags : Flags) : Nat → List Char → Option (List Char × List Char)
  | 0, _ => none
  | fuel + 1, s =>
    match s with
    | [] => none
    | c :: rest =>
      if c = '}' then some ([], rest)
      else (untilBrace flags fuel (flags.skip rest)).map fun (name, rest) => (c :: name, rest)

def property? (flags : Flags) (negated : Bool) (found : Option (Bool × CharSet)) : Option Atom :=
  if !flags.allScripts then none
  else
    match found with
    | none => none
    | some (differs, set) => (flags.negate? (negated != differs) (flags.fold set)).map Atom.set

def propertyEscape (flags : Flags) (negated : Bool) (s : List Char) : Option (Atom × List Char) :=
  match flags.skip s with
  | [] => none
  | '{' :: rest => do
    let (name, rest) ← untilBrace flags (rest.length + 1) (flags.skip rest)
    return (← property? flags negated (Property.read? name), rest)
  | '\\' :: _ => none
  | c :: rest => do
    let set ← Property.named? [c]
    return (← property? flags negated (some (false, set)), flags.skip rest)

def escape (flags : Flags) : List Char → Option (Atom × List Char)
  | [] => none
  | c :: rest =>
    if c = 'x' then hexEscape flags 2 rest
    else if c = 'u' then hexEscape flags 4 rest
    else if c = 'U' then hexEscape flags 8 rest
    else if c = 'p' then propertyEscape flags false rest
    else if c = 'P' then propertyEscape flags true rest
    else if isQuotable c then some (.char c false, rest)
    else if c = 'b' then wordEdge flags rest
    else if c = 'B' then some (.look (.noWordEdge flags.word), rest)
    else if c = '<' then some (.look (.wordStart flags.word), rest)
    else if c = '>' then some (.look (.wordEnd flags.word), rest)
    else if c = 'A' then some (.look .textStart, rest)
    else if c = 'z' then some (.look .textEnd, rest)
    else
      match shortClass? flags c with
      | some set? => set?.map fun s => (.set s, rest)
      | none => (control? c).map fun c => (.char c false, rest)

end Deckwright.Pattern
