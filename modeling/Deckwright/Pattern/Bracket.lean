import Deckwright.Pattern.Escape
set_option autoImplicit false

namespace Deckwright.Pattern

inductive SetOp where
  | both
  | without
  | onlyOne

def SetOp.apply : SetOp → CharSet → CharSet → CharSet
  | .both => CharSet.both
  | .without => CharSet.without
  | .onlyOne => CharSet.onlyOne

def asciiClasses : List (String × CharSet) :=
  [("alnum", ⟨[(48, 57), (65, 90), (97, 122)]⟩),
    ("alpha", ⟨[(65, 90), (97, 122)]⟩),
    ("ascii", ⟨[(0, 127)]⟩),
    ("blank", ⟨[(9, 9), (32, 32)]⟩),
    ("cntrl", ⟨[(0, 31), (127, 127)]⟩),
    ("digit", ⟨[(48, 57)]⟩),
    ("graph", ⟨[(33, 126)]⟩),
    ("lower", ⟨[(97, 122)]⟩),
    ("print", ⟨[(32, 126)]⟩),
    ("punct", ⟨[(33, 47), (58, 64), (91, 96), (123, 126)]⟩),
    ("space", ⟨[(9, 13), (32, 32)]⟩),
    ("upper", ⟨[(65, 90)]⟩),
    ("word", ⟨[(48, 57), (65, 90), (95, 95), (97, 122)]⟩),
    ("xdigit", ⟨[(48, 57), (65, 70), (97, 102)]⟩)]

structure Part where
  set : CharSet
  depth : Nat

/-- A bracket that is still open: the parts since the last operation, latest first, and
    that operation with what stood before it. -/
structure OpenBracket where
  negated : Bool
  parts : List Part
  pending : Option (SetOp × Part)

namespace OpenBracket

def add (b : OpenBracket) (p : Part) : OpenBracket := { b with parts := p :: b.parts }

def row : List Part → Part
  | [] => ⟨CharSet.none, 0⟩
  | [p] => p
  | ps =>
    ⟨.unionOf (ps.map Part.set), 1 + ps.foldl (fun d p => max d p.depth) 0⟩

-- Case is folded on each side before the operation.
def joined (flags : Flags) (b : OpenBracket) : Part :=
  let right := row b.parts
  match b.pending with
  | none => right
  | some (op, left) =>
    ⟨op.apply (flags.fold left.set) (flags.fold right.set), 1 + max left.depth right.depth⟩

def startOp (flags : Flags) (b : OpenBracket) (op : SetOp) : OpenBracket :=
  { b with parts := [], pending := some (op, b.joined flags) }

def close? (flags : Flags) (b : OpenBracket) : Option Part := do
  let inner := b.joined flags
  let set ← flags.negate? b.negated (flags.fold inner.set)
  return ⟨set, 1 + inner.depth⟩

end OpenBracket

def dashes (flags : Flags) (b : OpenBracket) : Nat → List Char → Option (OpenBracket × List Char)
  | 0, _ => none
  | fuel + 1, s =>
    match s with
    | [] => none
    | c :: rest =>
      if c = '-' then dashes flags (b.add ⟨.char '-', 0⟩) fuel (flags.skip rest)
      else some (b, c :: rest)

-- Right after the opening, hyphens stand for themselves, and so does a closing bracket
-- that comes first of all.
def openBracket (flags : Flags) (s : List Char) : Option (OpenBracket × List Char) :=
  let s := flags.skip s
  let negated := s.head? = some '^'
  let s := if negated then flags.skip (s.drop 1) else s
  match dashes flags ⟨negated, [], none⟩ (s.length + 1) s with
  | none => none
  | some (b, rest) =>
    if b.parts.isEmpty && rest.head? = some ']' then
      let rest := flags.skip (rest.drop 1)
      if rest.isEmpty then none else some (b.add ⟨.char ']', 0⟩, rest)
    else some (b, rest)

def namedClass? (flags : Flags) (s : List Char) : Option (Option Part × List Char) :=
  let negated := s.head? = some '^'
  let s := if negated then s.drop 1 else s
  let name := s.takeWhile fun c => c != ':'
  match s.drop name.length with
  | ':' :: ']' :: rest => (asciiClasses.lookup (String.ofList name)).map fun set =>
      ((flags.negate? negated (flags.fold set)).map fun set => ⟨set, 0⟩, rest)
  | _ => none

def setItem (flags : Flags) : List Char → Option (Atom × List Char)
  | [] => none
  | '\\' :: rest => escape flags rest
  | c :: rest => some (.char c false, rest)

def peekPast (flags : Flags) (s : List Char) : Option Char :=
  if flags.spaced then
    match Text.trimStart s with
    | '#' :: rest => (Text.trimStart rest).head?
    | rest => rest.head?
  else s.head?

def setRange (flags : Flags) (s : List Char) : Option (Part × List Char) := do
  let (first, rest) ← setItem flags s
  match flags.skip rest with
  | [] => none
  | c :: after =>
    if c != '-' || peekPast flags after = some ']' || peekPast flags after = some '-' then
      return (⟨← first.set? flags, 0⟩, c :: after)
    else
      let (last, rest) ← setItem flags (flags.skip after)
      let low ← first.member? flags
      let high ← last.member? flags
      if low ≤ high then return (⟨.range low.toNat high.toNat, 0⟩, rest) else none

def bracketFrom (flags : Flags) (outer : List OpenBracket) (b : OpenBracket) :
    Nat → List Char → Option (Part × List Char)
  | 0, _ => none
  | fuel + 1, s =>
    match flags.skip s with
    | [] => none
    | '[' :: rest =>
      let named :=
        match rest with
        | ':' :: more => namedClass? flags more
        | _ => none
      match named with
      | some (none, _) => none
      | some (some part, rest) => bracketFrom flags outer (b.add part) fuel rest
      | none =>
        match openBracket flags rest with
        | none => none
        | some (inner, rest) => bracketFrom flags (b :: outer) inner fuel rest
    | ']' :: rest =>
      match b.close? flags with
      | none => none
      | some part =>
        match outer with
        | [] => some (part, rest)
        | parent :: outer => bracketFrom flags outer (parent.add part) fuel rest
    | '&' :: '&' :: rest => bracketFrom flags outer (b.startOp flags .both) fuel rest
    | '-' :: '-' :: rest => bracketFrom flags outer (b.startOp flags .without) fuel rest
    | '~' :: '~' :: rest => bracketFrom flags outer (b.startOp flags .onlyOne) fuel rest
    | s =>
      match setRange flags s with
      | none => none
      | some (part, rest) => bracketFrom flags outer (b.add part) fuel rest

def bracket (flags : Flags) (s : List Char) : Option (Part × List Char) :=
  match openBracket flags s with
  | none => none
  | some (b, rest) => bracketFrom flags [] b (rest.length + 1) rest

end Deckwright.Pattern
