import Deckwright.Filter.Basic
set_option autoImplicit false

/- Filters as bracketed text, on one line:

     filter := < code : mode operand >  |  < code >  |  < AND filter … >  |  < OR filter … >

   Inside a leaf the brackets and the backslash are escaped, so what a user searches for
   never opens or closes a filter. -/
namespace Deckwright

namespace Operand

def writtenSet (values : List String) : List Char :=
  '{' :: Text.joinWith [','] (values.map fun v => Text.escape Text.elementSpecials v.toList) ++ ['}']

def written : Operand → List Char
  | .none => []
  | .text s => ' ' :: Text.escape Text.bracketSpecials s.text.toList
  | .cost c => Text.escape Text.bracketSpecials c.text
  | .number x => x.text
  | .colors w => '{' :: w.colors.letters ++ '}' :: if w.multicolored then ['M'] else []
  | .options values => writtenSet values.toList
  | .rarities values => writtenSet (values.toList.map Rarity.name)
  | .legality w => writtenSet w.formats.toList ++ if w.restricted then ['r'] else []

def readNothing (s : List Char) : Except OperandFault Operand :=
  if (Text.trim s).isEmpty then .ok .none else .error .notWanted

def readNumber (s : List Char) : Except OperandFault Operand :=
  match Binary64.read (Text.trim (Text.unescape s)) with
  | .ok x => ofNumber x
  | .error e => .error (.number e)

def dropBlank : List Char → List Char
  | ' ' :: s => s
  | s => s

def takeSet (s : List Char) : Except OperandFault (List Char × List Char) :=
  match Text.trimStart s with
  | '{' :: s =>
    match Text.cutUnescaped '}' s with
    | some parts => .ok parts
    | Option.none => .error .braceUnclosed
  | _ => .error .braceExpected

def elements (s : List Char) : List String :=
  ((Text.splitUnescaped ',' s).map fun e => Text.trimmed (String.ofList (Text.unescape e))).filter
    fun e => !e.isEmpty

def readFlag (flag : List Char) (s : List Char) : Except OperandFault Bool :=
  let rest := Text.trim s
  if rest.isEmpty then .ok false
  else if rest = flag then .ok true
  else .error (.afterSet (String.ofList rest))

def readColors (s : List Char) : Except OperandFault Operand :=
  match takeSet s with
  | .error e => .error e
  | .ok (inner, rest) =>
    match ColorSet.readLetters (Text.unescape inner) with
    | .error e => .error (.misread e)
    | .ok cs => (readFlag ['M'] rest).map fun multicolored => .colors ⟨cs, multicolored⟩

def readOptions (s : List Char) : Except OperandFault Operand :=
  match takeSet s with
  | .error e => .error e
  | .ok (inner, rest) => (readFlag [] rest).map fun _ => ofOptions (elements inner)

def readRarities (s : List Char) : Except OperandFault Operand :=
  match takeSet s with
  | .error e => .error e
  | .ok (inner, rest) =>
    match readFlag [] rest with
    | .error e => .error e
    | .ok _ =>
      match (elements inner).mapM Rarity.read with
      | .error e => .error (.misread e)
      | .ok rs => .ok (.rarities (.ofList rs))

def readLegality (s : List Char) : Except OperandFault Operand :=
  match takeSet s with
  | .error e => .error e
  | .ok (inner, rest) => (readFlag ['r'] rest).map fun restricted => ofFormats (elements inner) restricted

def readWritten (a : Aspect) (m : Mode) (s : List Char) : Except OperandFault Operand :=
  match a.kind with
  | .constant => readNothing s
  | .number => if m.isExistence then readNothing s else readNumber s
  | .text => ofText (String.ofList (Text.unescape (dropBlank s)))
  | .cost =>
    match ManaCost.read (String.ofList (Text.unescape s)) with
    | .ok c => .ok (.cost c)
    | .error e => .error (.misread e)
  | .colors => readColors s
  | .options => readOptions s
  | .rarity => readRarities s
  | .legality => readLegality s

end Operand

namespace Leaf

def written (l : Leaf) : List Char :=
  let inner := if l.aspect.kind = .constant then [] else ':' :: l.mode.written ++ l.operand.written
  '<' :: l.aspect.code.toList ++ inner ++ ['>']

def ofContent (a : Aspect) (body content : List Char) (fault : BracketFault → FilterFault) :
    Except FilterFault Leaf :=
  match Mode.take? content with
  | none => .error (fault (.modeExpected (String.ofList body)))
  | some (m, rest) =>
    if !a.allows m then .error (.mode a.code m.code)
    else
      match Operand.readWritten a m rest with
      | .error e => .error (.operand a.code (String.ofList (Text.unescape rest)) e)
      | .ok o => make a m o

def ofBody (body : List Char) (fault : BracketFault → FilterFault) : Except FilterFault Leaf :=
  let (code, content?) :=
    match Text.cutUnescaped ':' body with
    | some (code, content) => (code, some content)
    | none => (body, none)
  let code := Text.trimmed (String.ofList (Text.unescape code))
  match Aspect.ofCode? code with
  | none => .error (.unknownAspect code)
  | some a =>
    if a.kind = .constant then
      if (Text.trim (content?.getD [])).isEmpty then make a .always .none
      else .error (fault (.nothingTaken a.code))
    else
      match content? with
      | none => .error (fault (.colonExpected (String.ofList body)))
      | some content => ofContent a body content fault

end Leaf

namespace Filter

mutual

def written : Filter → List Char
  | .leaf l => l.written
  | .group m fs => '<' :: m.keyword.toList ++ writtenAll fs

def writtenAll : List Filter → List Char
  | [] => ['>']
  | f :: fs => ' ' :: written f ++ writtenAll fs

end

def toText (f : Filter) : String := String.ofList f.written

-- The text up to the bracket that closes the one just passed, and the text after it;
-- depth counts further brackets that are open.
def closing : Nat → List Char → Option (List Char × List Char)
  | _, [] => none
  | depth, [c] => if c = '>' && depth = 0 then some ([], []) else none
  | depth, c :: d :: s =>
    if c = '\\' then (closing depth s).map fun (front, back) => (c :: d :: front, back)
    else if c = '<' then (closing (depth + 1) (d :: s)).map fun (front, back) => (c :: front, back)
    else if c = '>' then
      match depth with
      | 0 => some ([], d :: s)
      | depth + 1 => (closing depth (d :: s)).map fun (front, back) => (c :: front, back)
    else (closing depth (d :: s)).map fun (front, back) => (c :: front, back)

def body (s : List Char) : Except BracketFault (List Char) :=
  match s with
  | '<' :: s =>
    match closing 0 s with
    | none => .error .unbalanced
    | some (inner, []) => .ok inner
    | some (_, _ :: _) => .error .textAfterClose
  | _ => .error .openExpected

-- The bracketed texts in a row. opened holds one that is not closed yet, last character
-- first, and how many brackets are open inside it.
def piecesFrom : Option (Nat × List Char) → List Char → Except BracketFault (List (List Char))
  | none, [] => .ok []
  | some _, [] => .error .unbalanced
  | none, c :: s =>
    if c = '<' then piecesFrom (some (0, [c])) s
    else if Text.isBlank c then piecesFrom none s
    else .error (.between c)
  | some (depth, opened), [c] =>
    if c = '>' && depth = 0 then .ok [(c :: opened).reverse] else .error .unbalanced
  | some (depth, opened), c :: d :: s =>
    if c = '\\' then piecesFrom (some (depth, d :: c :: opened)) s
    else if c = '<' then piecesFrom (some (depth + 1, c :: opened)) (d :: s)
    else if c = '>' then
      match depth with
      | 0 => (piecesFrom none (d :: s)).map ((c :: opened).reverse :: ·)
      | depth + 1 => piecesFrom (some (depth, c :: opened)) (d :: s)
    else piecesFrom (some (depth, c :: opened)) (d :: s)

def pieces (s : List Char) : Except BracketFault (List (List Char)) := piecesFrom none s

-- A filter within another is shorter than it by the brackets, so the length of the text
-- bounds the nesting.
def readFrom (fault : BracketFault → FilterFault) : Nat → List Char → Except FilterFault Filter
  | 0, _ => .error (fault .unbalanced)
  | fuel + 1, s =>
    match body (Text.trim s) with
    | .error e => .error (fault e)
    | .ok inner =>
      let (head, rest) := Text.firstWord inner
      match GroupMode.ofKeyword? (String.ofList head) with
      | none => (Leaf.ofBody inner fault).map leaf
      | some m =>
        match pieces rest with
        | .error e => .error (fault e)
        | .ok [] => .error (fault .emptyGroup)
        | .ok ps =>
          match ps.mapM (readFrom fault fuel) with
          | .error e => .error e
          | .ok fs => ofGroup m fs

def read (s : List Char) : Except FilterFault Filter :=
  readFrom (.bracketed (String.ofList s)) (s.length + 1) s

def ofText? (s : String) : Except FilterFault Filter := read s.toList

end Filter

end Deckwright
