set_option autoImplicit false

namespace Deckwright.Text

def escapeChar (specials : List Char) (c : Char) : List Char :=
  if c = '\n' then ['\\', 'n']
  else if c = '\r' then ['\\', 'r']
  else if c = '\t' then ['\\', 't']
  else if specials.contains c then ['\\', c]
  else [c]

def escape (specials : List Char) (s : List Char) : List Char :=
  s.flatMap (escapeChar specials)

def unescapeChar (c : Char) : Char :=
  if c = 'n' then '\n' else if c = 'r' then '\r' else if c = 't' then '\t' else c

-- A backslash at the very end stands for itself.
def unescape : List Char → List Char
  | [] => []
  | [c] => [c]
  | c :: d :: s => if c = '\\' then unescapeChar d :: unescape s else c :: unescape (d :: s)

def cutUnescaped (target : Char) : List Char → Option (List Char × List Char)
  | [] => none
  | [c] => if c ≠ '\\' ∧ c = target then some ([], []) else none
  | c :: d :: s =>
    if c = '\\' then (cutUnescaped target s).map fun (front, back) => (c :: d :: front, back)
    else if c = target then some ([], d :: s)
    else (cutUnescaped target (d :: s)).map fun (front, back) => (c :: front, back)

def consToFirst (cs : List Char) : List (List Char) → List (List Char)
  | [] => [cs]
  | piece :: rest => (cs ++ piece) :: rest

def splitUnescaped (sep : Char) : List Char → List (List Char)
  | [] => [[]]
  | [c] => if c ≠ '\\' ∧ c = sep then [[], []] else [[c]]
  | c :: d :: s =>
    if c = '\\' then consToFirst [c, d] (splitUnescaped sep s)
    else if c = sep then [] :: splitUnescaped sep (d :: s)
    else consToFirst [c] (splitUnescaped sep (d :: s))

-- Inside a filter's brackets, inside the braces of a set, in the name and ids of a
-- category line, and in the id of an entry line.
def bracketSpecials : List Char := ['\\', '<', '>']

def elementSpecials : List Char := ['\\', '<', '>', ',', '{', '}']

def lineSpecials : List Char := ['\\', '<', '>', ':']

def idSpecials : List Char := ['\\']

end Deckwright.Text
