import Deckwright.Filter.Mode
import Deckwright.Pattern.Machine
import Deckwright.Pattern.Reader
import Deckwright.Text.Plain
set_option autoImplicit false

namespace Deckwright

/-- What a search text stands for. A pattern is kept twice, the second time made to
    match a whole text or nothing. -/
inductive Matcher where
  | words (ws : List (List Char)) (exact : List Char)
  | pattern (inside whole : Pattern)

namespace Matcher

def stroke : Char := '/'

def patternText? (s : List Char) : Option (List Char) :=
  match Text.trim s with
  | first :: second :: rest =>
    if first = stroke && (second :: rest).getLast? = some stroke then some (second :: rest).dropLast else none
  | _ => none

def wholeText (p : List Char) : List Char := "^(?:".toList ++ p ++ ")$".toList

def read (s : List Char) : Option Matcher :=
  match patternText? s with
  | some p => do
    let inside ← Pattern.read p
    let whole ← Pattern.read (wholeText p)
    return .pattern inside whole
  | none => some (.words (Text.terms (Text.plain s)) (Text.plain (Text.trim s)))

def test (c : Containment) (text : List Char) : Matcher → Bool
  | .words ws exact =>
    match c with
    | .anyOf => ws.any fun w => Text.standsIn w text
    | .allOf => ws.all fun w => Text.standsIn w text
    | .noneOf => !ws.any fun w => Text.standsIn w text
    | .exactly => text = exact
  | .pattern inside whole =>
    match c with
    | .anyOf | .allOf => inside.occursIn text
    | .noneOf => !inside.occursIn text
    | .exactly => whole.occursIn text

def isPattern : Matcher → Bool
  | .pattern _ _ => true
  | .words _ _ => false

end Matcher

/-- A search keeps what its text stands for, so that the text is read one time only. -/
structure Search where
  text : String
  matcher : Matcher
  readable : Matcher.read text.toList = some matcher

namespace Search

theorem eq_of_text {s t : Search} (same : s.text = t.text) : s = t := by
  obtain ⟨text, m, hm⟩ := s
  obtain ⟨_, n, hn⟩ := t
  subst same
  have : m = n := Option.some.inj (hm.symm.trans hn)
  subst this
  rfl

instance : DecidableEq Search := fun s t =>
  if h : s.text = t.text then isTrue (eq_of_text h) else isFalse fun same => h (congrArg text same)

def ofText? (s : String) : Option Search :=
  match h : Matcher.read s.toList with
  | some m => some ⟨s, m, h⟩
  | none => none

def empty : Search := ⟨"", .words [] [], rfl⟩

def test (s : Search) (c : Containment) (text : String) : Bool := s.matcher.test c text.toList

def isPattern (s : Search) : Bool := s.matcher.isPattern

end Search

end Deckwright
