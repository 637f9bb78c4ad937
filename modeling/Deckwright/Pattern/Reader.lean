import Deckwright.Pattern.Bracket
import Deckwright.Pattern.Room
set_option autoImplicit false

namespace Deckwright.Pattern

def depthLimit : Nat := 250

structure Node where
  pattern : Pattern
  depth : Nat

-- A setting of flags takes a place in the row, but nothing can be repeated there.
inductive Item where
  | setting
  | node (n : Node)

def Item.depth : Item → Nat
  | .setting => 0
  | .node n => n.depth

def Item.pattern : Item → Pattern
  | .setting => .empty
  | .node n => n.pattern

-- Rows and branches are kept with the latest in front.
def rowOf : List Item → Node
  | [] => ⟨.empty, 0⟩
  | [i] => ⟨i.pattern, i.depth⟩
  | is =>
    ⟨is.foldl (fun rest i => .seq i.pattern rest) .empty, 1 + is.foldl (fun d i => max d i.depth) 0⟩

def branchesOf (last : Node) : List Node → Node
  | [] => last
  | ns =>
    ⟨ns.foldl (fun rest n => .either n.pattern rest) last.pattern,
      1 + ns.foldl (fun d n => max d n.depth) last.depth⟩

structure OpenGroup where
  branches : List Node
  row : List Item

namespace OpenGroup

def start : OpenGroup := ⟨[], []⟩

def node (g : OpenGroup) : Node := branchesOf (rowOf g.row) g.branches

def nextBranch (g : OpenGroup) : OpenGroup := ⟨rowOf g.row :: g.branches, []⟩

def add (g : OpenGroup) (i : Item) : OpenGroup := { g with row := i :: g.row }

def addPattern (g : OpenGroup) (p : Pattern) : OpenGroup := g.add (.node ⟨p, 0⟩)

def repeatLast (g : OpenGroup) (least : Nat) (most : Option Nat) : Option OpenGroup :=
  match g.row with
  | .node n :: rest => some { g with row := .node ⟨.repeated n.pattern least most, 1 + n.depth⟩ :: rest }
  | _ => none

end OpenGroup

structure State where
  flags : Flags
  here : OpenGroup
  outer : List (OpenGroup × Flags)
  names : List (List Char)

-- Whether a repetition is greedy makes no difference to whether it matches.
def dropLazy : List Char → List Char
  | '?' :: rest => rest
  | s => s

def decimalFrom (flags : Flags) (n count : Nat) : Nat → List Char → Nat × Nat × List Char
  | 0, s => (n, count, s)
  | fuel + 1, s =>
    match s with
    | [] => (n, count, [])
    | c :: rest =>
      if Text.isAsciiDigit c then
        decimalFrom flags (n * 10 + (c.toNat - '0'.toNat)) (count + 1) fuel (flags.skip rest)
      else (n, count, c :: rest)

def countLimit : Nat := 0xFFFFFFFF

def decimal (flags : Flags) (s : List Char) : Option (Nat × List Char) :=
  let s := Text.trimStart s
  let (n, count, rest) := decimalFrom flags 0 0 s.length s
  if count = 0 || countLimit < n then none else some (n, flags.skip (Text.trimStart rest))

def countEnd (flags : Flags) (least : Nat) (most : Option Nat) :
    List Char → Option (Nat × Option Nat × List Char)
  | '}' :: rest =>
    if most.any fun most => most < least then none else some (least, most, dropLazy (flags.skip rest))
  | _ => none

def bounds (flags : Flags) (s : List Char) : Option (Nat × Option Nat × List Char) := do
  let (least, rest) ← decimal flags (flags.skip s)
  match rest with
  | ',' :: rest =>
    match flags.skip rest with
    | '}' :: rest => countEnd flags least none ('}' :: rest)
    | rest => do
      let (most, rest) ← decimal flags rest
      countEnd flags least (some most) rest
  | rest => countEnd flags least (some least) rest

def isNameStart (c : Char) : Bool := c = '_' || Text.isLetter c

def isNameChar (c : Char) : Bool :=
  c = '_' || c = '.' || c = '[' || c = ']' || Text.isAlphanumeric c

def groupName (s : List Char) : Option (List Char × List Char) :=
  let name := s.takeWhile fun c => c != '>'
  match name, s.drop name.length with
  | c :: cs, '>' :: rest => if isNameStart c && cs.all isNameChar then some (c :: cs, rest) else none
  | _, _ => none

inductive FlagSign where
  | off
  | ignoreCase
  | multiLine
  | dotAll
  | lazy
  | allScripts
  | crlf
  | spaced
deriving DecidableEq

def flagSign? (c : Char) : Option FlagSign :=
  match c with
  | '-' => some .off
  | 'i' => some .ignoreCase
  | 'm' => some .multiLine
  | 's' => some .dotAll
  | 'U' => some .lazy
  | 'u' => some .allScripts
  | 'R' => some .crlf
  | 'x' => some .spaced
  | _ => none

def Flags.set (flags : Flags) (on : Bool) : FlagSign → Flags
  | .off | .lazy => flags
  | .ignoreCase => { flags with ignoreCase := on }
  | .multiLine => { flags with multiLine := on }
  | .dotAll => { flags with dotAll := on }
  | .allScripts => { flags with allScripts := on }
  | .crlf => { flags with crlf := on }
  | .spaced => { flags with spaced := on }

def Flags.setAll (flags : Flags) : Bool → List FlagSign → Flags
  | _, [] => flags
  | _, .off :: rest => Flags.setAll flags false rest
  | on, f :: rest => Flags.setAll (flags.set on f) on rest

def flagSigns (s : List Char) : Option (List FlagSign × List Char) := do
  let text := s.takeWhile fun c => c != ':' && c != ')'
  let signs ← text.mapM flagSign?
  if signs.eraseDups.length < signs.length || signs.getLast? = some .off then none
  else return (signs, s.drop text.length)

def isLookaround : List Char → Bool
  | '?' :: '=' :: _ | '?' :: '!' :: _ | '?' :: '<' :: '=' :: _ | '?' :: '<' :: '!' :: _ => true
  | _ => false

namespace State

def start : State := ⟨Flags.standard, OpenGroup.start, [], []⟩

def openGroup (st : State) (inner : Flags) : State :=
  { st with flags := inner, here := OpenGroup.start, outer := (st.here, st.flags) :: st.outer }

def openNamed (st : State) (s : List Char) : Option (State × List Char) := do
  let (name, rest) ← groupName s
  if st.names.contains name then none
  else return ({ st with names := name :: st.names }.openGroup st.flags, rest)

def enter (st : State) (s : List Char) : Option (State × List Char) :=
  let s := st.flags.skip s
  if isLookaround s then none
  else
    match s with
    | '?' :: 'P' :: '<' :: rest => st.openNamed rest
    | '?' :: '<' :: rest => st.openNamed rest
    | '?' :: rest => do
      let (signs, rest) ← flagSigns rest
      let flags := st.flags.setAll true signs
      match rest with
      | ')' :: rest =>
        if signs.isEmpty then none
        else return ({ st with flags := flags, here := st.here.add .setting }, rest)
      | ':' :: rest => return (st.openGroup flags, rest)
      | _ => none
    | s => some (st.openGroup st.flags, s)

def leave (st : State) : Option State :=
  match st.outer with
  | [] => none
  | (parent, flags) :: outer =>
    let n := st.here.node
    some { st with flags := flags, here := parent.add (.node ⟨n.pattern, 1 + n.depth⟩), outer := outer }

def add (st : State) (p : Pattern) : State := { st with here := st.here.addPattern p }

def repeatLast (st : State) (least : Nat) (most : Option Nat) : Option State :=
  (st.here.repeatLast least most).map fun g => { st with here := g }

def dot? (flags : Flags) : Option Pattern :=
  if !flags.allScripts then none
  else if flags.dotAll then some (.one .any)
  else if flags.crlf then some (.one (CharSet.mk [(10, 10), (13, 13)]).outside)
  else some (.one (CharSet.char '\n').outside)

def lineStart (flags : Flags) : Look :=
  if !flags.multiLine then .textStart else if flags.crlf then .lineStartCrlf else .lineStart

def lineEnd (flags : Flags) : Look :=
  if !flags.multiLine then .textEnd else if flags.crlf then .lineEndCrlf else .lineEnd

def step (st : State) (c : Char) (rest : List Char) : Option (State × List Char) :=
  match c with
  | '(' => st.enter rest
  | ')' => st.leave.map fun st => (st, rest)
  | '|' => some ({ st with here := st.here.nextBranch }, rest)
  | '[' => (bracket st.flags rest).map fun (part, rest) =>
      ({ st with here := st.here.add (.node ⟨.one part.set, part.depth⟩) }, rest)
  | '?' => (st.repeatLast 0 (some 1)).map fun st => (st, dropLazy rest)
  | '*' => (st.repeatLast 0 none).map fun st => (st, dropLazy rest)
  | '+' => (st.repeatLast 1 none).map fun st => (st, dropLazy rest)
  | '{' => do
    let (least, most, rest) ← bounds st.flags rest
    return (← st.repeatLast least most, rest)
  | '\\' => do
    let (atom, rest) ← escape st.flags rest
    return (st.add (← atom.pattern? st.flags), rest)
  | '.' => (dot? st.flags).map fun p => (st.add p, rest)
  | '^' => some (st.add (.look (lineStart st.flags)), rest)
  | '$' => some (st.add (.look (lineEnd st.flags)), rest)
  | c => ((Atom.char c false).pattern? st.flags).map fun p => (st.add p, rest)

-- Every step takes at least one character.
def readFrom (st : State) : Nat → List Char → Option Pattern
  | 0, _ => none
  | fuel + 1, s =>
    match st.flags.skip s with
    | [] =>
      if st.outer.isEmpty && st.here.node.depth ≤ depthLimit then some st.here.node.pattern else none
    | c :: rest =>
      match st.step c rest with
      | none => none
      | some (st, rest) => readFrom st fuel rest

end State

def read (s : List Char) : Option Pattern :=
  (State.start.readFrom (s.length + 1) s).filter fun p => p.room ≤ roomLimit

end Deckwright.Pattern
