import Deckwright.Binary64.Basic
import Deckwright.Ordered
set_option autoImplicit false

namespace Deckwright

inductive Json where
  | null
  | bool (b : Bool)
  | integer (n : Int)
  | real (x : Binary64)
  | text (s : String)
  | list (items : List Json)
  | record (fields : List (String × Json))

namespace Json

def fields? : Json → Option (List (String × Json))
  | .record fields => some fields
  | _ => none

def items? : Json → Option (List Json)
  | .list items => some items
  | _ => none

def text? : Json → Option String
  | .text s => some s
  | _ => none

def bool? : Json → Option Bool
  | .bool b => some b
  | _ => none

def ofIntBinary64 (n : Int) : Binary64 :=
  if 0 ≤ n then Binary64.ofNat n.toNat else (Binary64.ofNat n.natAbs).neg

def number? : Json → Option Binary64
  | .integer n => some (ofIntBinary64 n)
  | .real x => some x
  | _ => none

def natural? : Json → Option Nat
  | .integer n => if 0 ≤ n then some n.toNat else none
  | _ => none

def lookup (key : String) : List (String × Json) → Option Json
  | [] => none
  | (k, v) :: rest =>
    match lookup key rest with
    | some later => some later
    | none => if k = key then some v else none

def mapping (fields : List (String × Json)) : List (String × Json) :=
  (OrderedMap.ofList fields).entries

def field? (j : Json) (key : String) : Option Json := j.fields?.bind (lookup key)

def ofBinary64 (x : Binary64) : Json := if x.isFinite then .real x else .null

def ofNat (n : Nat) : Json := .integer (n : Int)

def ofOption {α : Type} (f : α → Json) : Option α → Json
  | none => .null
  | some a => f a

def texts (ss : List String) : Json := .list (ss.map Json.text)

end Json

end Deckwright
