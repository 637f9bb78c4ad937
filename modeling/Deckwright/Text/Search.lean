import Deckwright.Text.Blank
import Deckwright.Text.Letter
set_option autoImplicit false

namespace Deckwright.Text

def after? : List Char → List Char → Option (List Char)
  | [], s => some s
  | _ :: _, [] => none
  | w :: ws, c :: s => if w = c then after? ws s else none

def occurs (word : List Char) : List Char → Bool
  | [] => word.isEmpty
  | c :: s => (after? word (c :: s)).isSome || occurs word s

-- skip counts the characters of the occurrence just replaced that are still to pass.
def replaceFrom (old new : List Char) : Nat → List Char → List Char
  | _, [] => []
  | skip + 1, _ :: s => replaceFrom old new skip s
  | 0, c :: s =>
    if (after? old (c :: s)).isSome then new ++ replaceFrom old new (old.length - 1) s
    else c :: replaceFrom old new 0 s

def replaceAll (old new s : List Char) : List Char := replaceFrom old new 0 s

def startsAlphanumeric (s : List Char) : Bool :=
  match s with
  | [] => false
  | c :: _ => isAlphanumeric c

-- Occurrences are taken from the left and do not overlap: one that is not bounded
-- still uses up its characters.
def boundedFrom (word : List Char) (before : Option Char) : Nat → List Char → Bool
  | _, [] => false
  | skip + 1, c :: s => boundedFrom word (some c) skip s
  | 0, c :: s =>
    match after? word (c :: s) with
    | some rest =>
      (!before.any isAlphanumeric && !startsAlphanumeric rest) ||
        boundedFrom word (some c) (word.length - 1) s
    | none => boundedFrom word (some c) 0 s

def standsIn (word s : List Char) : Bool := boundedFrom word none 0 s

inductive TermState where
  | between
  | word (reversed : List Char)
  | quoted (reversed : List Char)

def quotedTerm (reversed : List Char) : List (List Char) :=
  let phrase := trim reversed.reverse
  if phrase.isEmpty then [] else [phrase]

-- A quote opens a phrase only where a term starts; inside a word it is a character.
def termsFrom : TermState → List Char → List (List Char)
  | .between, [] => []
  | .word reversed, [] => [reversed.reverse]
  | .quoted reversed, [] => quotedTerm reversed
  | .between, c :: s =>
    if isBlank c then termsFrom .between s
    else if c = '"' then termsFrom (.quoted []) s
    else termsFrom (.word [c]) s
  | .word reversed, c :: s =>
    if isBlank c then reversed.reverse :: termsFrom .between s
    else termsFrom (.word (c :: reversed)) s
  | .quoted reversed, c :: s =>
    if c = '"' then quotedTerm reversed ++ termsFrom .between s
    else termsFrom (.quoted (c :: reversed)) s

def terms (s : List Char) : List (List Char) := termsFrom .between s

def cutAt (word : List Char) : List Char → Option (List Char × List Char)
  | [] => if word.isEmpty then some ([], []) else none
  | c :: s =>
    match after? word (c :: s) with
    | some rest => some ([], rest)
    | none => (cutAt word s).map fun (front, back) => (c :: front, back)

def splitOn (sep : Char) : List Char → List (List Char)
  | [] => [[]]
  | c :: s =>
    if c = sep then [] :: splitOn sep s
    else
      match splitOn sep s with
      | [] => [[c]]
      | piece :: rest => (c :: piece) :: rest

def splitOnAny (seps : List Char) : List Char → List (List Char)
  | [] => [[]]
  | c :: s =>
    if seps.contains c then [] :: splitOnAny seps s
    else
      match splitOnAny seps s with
      | [] => [[c]]
      | piece :: rest => (c :: piece) :: rest

def splitAtFrom (sep : List Char) : Nat → List Char → List (List Char)
  | _, [] => [[]]
  | skip + 1, _ :: s => splitAtFrom sep skip s
  | 0, c :: s =>
    if (after? sep (c :: s)).isSome then [] :: splitAtFrom sep (sep.length - 1) s
    else
      match splitAtFrom sep 0 s with
      | [] => [[c]]
      | piece :: rest => (c :: piece) :: rest

def splitAt (sep s : List Char) : List (List Char) := splitAtFrom sep 0 s

def joinWith (sep : List Char) : List (List Char) → List Char
  | [] => []
  | [piece] => piece
  | piece :: rest => piece ++ sep ++ joinWith sep rest

end Deckwright.Text
