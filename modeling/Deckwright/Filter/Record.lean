import Deckwright.Filter.Basic
import Deckwright.Json.Decoder
import Deckwright.Json.Printer
set_option autoImplicit false

namespace Deckwright

namespace Operand

def fields : Operand → List (String × Json)
  | .none => []
  | .text s => [("text", .text s.text)]
  | .cost c => [("cost", .text c.toText)]
  | .number x => [("value", .ofBinary64 x)]
  | .colors w => [("colors", .text w.colors.toText), ("multicolored", .bool w.multicolored)]
  | .options values => [("selected", .texts values.toList)]
  | .rarities values => [("selected", .texts (values.toList.map Rarity.name))]
  | .legality w => [("formats", .texts w.formats.toList), ("restricted", .bool w.restricted)]

end Operand

namespace Filter

def groupKey : String := "group"

def leafRecord (l : Leaf) : Json :=
  let mode := if l.aspect.kind = .constant then [] else [("mode", Json.text l.mode.code)]
  .record (Json.mapping (l.operand.fields ++ mode ++ [("type", Json.text l.aspect.code)]))

mutual

def toJson : Filter → Json
  | .leaf l => leafRecord l
  | .group m fs =>
    .record [("children", .list (toJsonAll fs)), ("mode", .text m.keyword), ("type", .text groupKey)]

def toJsonAll : List Filter → List Json
  | [] => []
  | f :: fs => toJson f :: toJsonAll fs

end

def toJsonText (f : Filter) : String := f.toJson.toText

abbrev Fields := List (String × Json)

def missing {α : Type} (key : String) : Except FilterFault α := .error (.record (.key key))

def textAt (fields : Fields) (key : String) : Except FilterFault String :=
  match (Json.lookup key fields).bind Json.text? with
  | some s => .ok s
  | none => missing key

def itemsAt (fields : Fields) (key : String) : Except FilterFault (List Json) :=
  match (Json.lookup key fields).bind Json.items? with
  | some js => .ok js
  | none => missing key

def textsAt (fields : Fields) (key : String) : Except FilterFault (List String) :=
  match itemsAt fields key with
  | .error e => .error e
  | .ok js => js.mapM fun j => match j.text? with
    | some s => .ok s
    | none => missing key

def flagAt (fields : Fields) (key : String) : Except FilterFault Bool :=
  match Json.lookup key fields with
  | none => .ok false
  | some j =>
    match j.bool? with
    | some b => .ok b
    | none => missing key

def numberAt (a : Aspect) (fields : Fields) : Except FilterFault Operand :=
  match (Json.lookup "value" fields).bind Json.number? with
  | none => missing "value"
  | some x =>
    match Operand.ofNumber x with
    | .ok o => .ok o
    | .error e => .error (.operand a.code x.toText e)

def colorsAt (a : Aspect) (fields : Fields) : Except FilterFault Operand :=
  match textAt fields "colors" with
  | .error e => .error e
  | .ok s =>
    match ColorSet.read s with
    | .error e => .error (.operand a.code s (.misread e))
    | .ok colors => (flagAt fields "multicolored").map fun m => .colors ⟨colors, m⟩

def rarityOf (a : Aspect) (s : String) : Except FilterFault Rarity :=
  match Rarity.read s with
  | .ok r => .ok r
  | .error e => .error (.operand a.code s (.misread e))

def operandAt (a : Aspect) (m : Mode) (fields : Fields) : Except FilterFault Operand :=
  match a.kind with
  | .constant => .ok .none
  | .number => if m.isExistence then .ok .none else numberAt a fields
  | .text =>
    match textAt fields "text" with
    | .error e => .error e
    | .ok s =>
      match Operand.ofText s with
      | .ok o => .ok o
      | .error e => .error (.operand a.code s e)
  | .cost =>
    match textAt fields "cost" with
    | .error e => .error e
    | .ok s =>
      match ManaCost.read s with
      | .ok c => .ok (.cost c)
      | .error e => .error (.operand a.code s (.misread e))
  | .colors => colorsAt a fields
  | .options => (textsAt fields "selected").map Operand.ofOptions
  | .rarity =>
    match textsAt fields "selected" with
    | .error e => .error e
    | .ok ss => (ss.mapM (rarityOf a)).map fun rs => .rarities (.ofList rs)
  | .legality =>
    match textsAt fields "formats" with
    | .error e => .error e
    | .ok names => (flagAt fields "restricted").map (Operand.ofFormats names)

def leafOf (kind : String) (fields : Fields) : Except FilterFault Filter :=
  let code := Text.trimmed kind
  match Aspect.ofCode? code with
  | none => .error (.unknownAspect code)
  | some a =>
    if a.kind = .constant then ofLeaf a .always .none
    else
      match textAt fields "mode" with
      | .error e => .error e
      | .ok word =>
        match (Mode.ofCode? word).filter a.allows with
        | none => .error (.mode a.code word)
        | some m =>
          match operandAt a m fields with
          | .error e => .error e
          | .ok o => ofLeaf a m o

def groupModeAt (fields : Fields) : Except FilterFault GroupMode :=
  match textAt fields "mode" with
  | .error e => .error e
  | .ok word =>
    match GroupMode.ofKeyword? word with
    | some m => .ok m
    | none => .error (.record (.groupMode word))

mutual

def ofJson : Json → Except FilterFault Filter
  | .record fields =>
    match textAt fields "type" with
    | .error e => .error e
    | .ok kind =>
      if kind = groupKey then
        match groupModeAt fields with
        | .error e => .error e
        | .ok m =>
          match childrenOf fields with
          | none => missing "children"
          | some (.error e) => .error e
          | some (.ok fs) => ofGroup m fs
      else leafOf kind fields
  | _ => .error (.record .recordExpected)

def childrenOf : List (String × Json) → Option (Except FilterFault (List Filter))
  | [] => none
  | (key, .list items) :: rest =>
    if (Json.lookup "children" rest).isSome then childrenOf rest
    else if key = "children" then some (ofJsonAll items)
    else childrenOf rest
  | (_, _) :: rest => childrenOf rest

def ofJsonAll : List Json → Except FilterFault (List Filter)
  | [] => .ok []
  | j :: js =>
    match ofJson j with
    | .error e => .error e
    | .ok f => (ofJsonAll js).map (f :: ·)

end

end Filter

def Json.Read.filter : Json.Reader Filter := fun levels d =>
  match Json.Read.value levels d with
  | .error e => .error e
  | .ok j =>
    match Filter.ofJson j with
    | .ok f => .ok f
    | .error _ => .error .mismatch

def Filter.ofJsonText (s : List Char) : Except Json.Fault Filter := Json.decode Json.Read.filter s

end Deckwright
