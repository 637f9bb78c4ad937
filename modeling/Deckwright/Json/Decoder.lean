import Deckwright.Json.Draft
set_option autoImplicit false

namespace Deckwright.Json

inductive Fault where
  | malformed
  | mismatch
deriving DecidableEq

abbrev Reader (α : Type) := Nat → Draft → Except Fault α

def levelLimit : Nat := 127

namespace Read

def unexpected : Draft → Fault
  | .broken | .hugeNumber | .noText => .malformed
  | _ => .mismatch

def openLevel {α : Type} (levels : Nat) (inner : Nat → Except Fault α) : Except Fault α :=
  match levels with
  | 0 => .error .malformed
  | inside + 1 => inner inside

def ended {α : Type} (closed : Bool) (a : α) : Except Fault α :=
  if closed then .ok a else .error .malformed

mutual

-- A value nobody reads still has to be whole; what its strings and numbers stand for
-- does not matter.
def whole : Draft → Bool
  | .broken => false
  | .list items closed => wholeItems items && closed
  | .record fields closed => wholeFields fields && closed
  | _ => true

def wholeItems : List Draft → Bool
  | [] => true
  | d :: rest => whole d && wholeItems rest

def wholeFields : List (Option String × Draft) → Bool
  | [] => true
  | (_, d) :: rest => whole d && wholeFields rest

end

mutual

def value (levels : Nat) : Draft → Except Fault Json
  | .null => .ok .null
  | .bool b => .ok (.bool b)
  | .integer n => .ok (.integer n)
  | .real x => .ok (.real x)
  | .text s => .ok (.text s)
  | .hugeNumber | .noText | .broken => .error .malformed
  | .list items closed =>
    match levels with
    | 0 => .error .malformed
    | inside + 1 =>
      match valueItems inside items with
      | .error e => .error e
      | .ok js => ended closed (.list js)
  | .record fields closed =>
    match levels with
    | 0 => .error .malformed
    | inside + 1 =>
      match valueFields inside fields with
      | .error e => .error e
      | .ok fs => ended closed (.record fs)

def valueItems (levels : Nat) : List Draft → Except Fault (List Json)
  | [] => .ok []
  | d :: rest =>
    match value levels d with
    | .error e => .error e
    | .ok j => (valueItems levels rest).map (j :: ·)

def valueFields (levels : Nat) : List (Option String × Draft) → Except Fault (List (String × Json))
  | [] => .ok []
  | (none, _) :: _ => .error .malformed
  | (some k, d) :: rest =>
    match value levels d with
    | .error e => .error e
    | .ok j => (valueFields levels rest).map ((k, j) :: ·)

end

def text : Reader String := fun _ d =>
  match d with
  | .text s => .ok s
  | d => .error (unexpected d)

def bool : Reader Bool := fun _ d =>
  match d with
  | .bool b => .ok b
  | d => .error (unexpected d)

def natural (bound : Nat) : Reader Nat := fun _ d =>
  match d with
  | .integer n => if 0 ≤ n && n ≤ bound then .ok n.toNat else .error .mismatch
  | d => .error (unexpected d)

def word32 : Reader UInt32 := fun levels d => (natural 0xFFFFFFFF levels d).map UInt32.ofNat

def binary64 : Reader Binary64 := fun _ d =>
  match d with
  | .integer n => .ok (ofIntBinary64 n)
  | .real x => .ok x
  | d => .error (unexpected d)

def optional {α : Type} (read : Reader α) : Reader (Option α) := fun levels d =>
  match d with
  | .null => .ok none
  | d => (read levels d).map some

def readAll {α : Type} (read : Reader α) (levels : Nat) : List Draft → Except Fault (List α)
  | [] => .ok []
  | d :: rest =>
    match read levels d with
    | .error e => .error e
    | .ok a => (readAll read levels rest).map (a :: ·)

def list {α : Type} (read : Reader α) : Reader (List α) := fun levels d =>
  match d with
  | .list items closed =>
    openLevel levels fun inside =>
      match readAll read inside items with
      | .error e => .error e
      | .ok as => ended closed as
  | d => .error (unexpected d)

def readEntries {α : Type} (read : Reader α) (levels : Nat) :
    List (Option String × Draft) → Except Fault (List (String × α))
  | [] => .ok []
  | (none, _) :: _ => .error .malformed
  | (some k, d) :: rest =>
    match read levels d with
    | .error e => .error e
    | .ok a => (readEntries read levels rest).map ((k, a) :: ·)

def entries {α : Type} (read : Reader α) : Reader (List (String × α)) := fun levels d =>
  match d with
  | .record fields closed =>
    openLevel levels fun inside =>
      match readEntries read inside fields with
      | .error e => .error e
      | .ok es => ended closed es
  | d => .error (unexpected d)

def named {α : Type} (ofName : String → Option α) : Reader α := fun levels d =>
  let known (s : String) : Except Fault α :=
    match ofName s with
    | some a => .ok a
    | none => .error .mismatch
  match d with
  | .text s => known s
  | .record fields closed =>
    openLevel levels fun _ =>
      match fields with
      | (some k, d) :: more =>
        match known k with
        | .error e => .error e
        | .ok a =>
          match d with
          | .null => if more.isEmpty && closed then .ok a else .error .malformed
          | d => .error (unexpected d)
      | _ => .error .malformed
  | _ => .error .malformed

/-- One field of a record under construction: σ is what has been read so far. -/
structure Slot (σ : Type) where
  key : String
  filled : σ → Bool
  fill : Nat → Draft → σ → Except Fault σ

def slot {σ α : Type} (key : String) (get : σ → Option α) (set : σ → α → σ) (read : Reader α) : Slot σ where
  key := key
  filled s := (get s).isSome
  fill levels d s := (read levels d).map (set s)

-- Unknown keys are passed over; a key that comes twice is a mismatch before its
-- second value is looked at.
def fillFields {σ : Type} (slots : List (Slot σ)) (levels : Nat) (s : σ) :
    List (Option String × Draft) → Except Fault σ
  | [] => .ok s
  | (none, _) :: _ => .error .malformed
  | (some k, d) :: rest =>
    match slots.find? fun slot => slot.key = k with
    | none => if whole d then fillFields slots levels s rest else .error .malformed
    | some slot =>
      if slot.filled s then .error .mismatch
      else
        match slot.fill levels d s with
        | .error e => .error e
        | .ok s => fillFields slots levels s rest

-- Without keys the fields come in their declared order. Missing ones at the end are
-- left to the record to judge; one item too many is no list of this record.
def fillInOrder {σ : Type} (levels : Nat) (closed : Bool) (s : σ) :
    List (Slot σ) → List Draft → Except Fault (σ × Bool)
  | [], items => .ok (s, closed && items.isEmpty)
  | _ :: _, [] => if closed then .ok (s, true) else .error .malformed
  | slot :: slots, d :: rest =>
    match slot.fill levels d s with
    | .error e => .error e
    | .ok s => fillInOrder levels closed s slots rest

def record {σ α : Type} (slots : List (Slot σ)) (start : σ) (finish : Bool → σ → Option α) : Reader α :=
  fun levels d =>
    let done (byKeys : Bool) (s : σ) : Except Fault α :=
      match finish byKeys s with
      | some a => .ok a
      | none => .error .mismatch
    match d with
    | .record fields closed =>
      openLevel levels fun inside =>
        match fillFields slots inside start fields with
        | .error e => .error e
        | .ok s => if closed then done true s else .error .malformed
    | .list items closed =>
      openLevel levels fun inside =>
        match fillInOrder inside closed start slots items with
        | .error e => .error e
        | .ok (s, atEnd) =>
          match done false s with
          | .error e => .error e
          | .ok a => ended atEnd a
    | d => .error (unexpected d)

end Read

def decodeOctets {α : Type} (read : Reader α) (s : Text.Octets) : Except Fault α :=
  let (d, atEnd) := draft s
  match read levelLimit d with
  | .error e => .error e
  | .ok a => Read.ended atEnd a

def decode {α : Type} (read : Reader α) (s : List Char) : Except Fault α :=
  decodeOctets read (Text.toOctets s)

def decodeValue {α : Type} (read : Reader α) (j : Json) : Option α :=
  (read levelLimit (Draft.ofJson j)).toOption

end Deckwright.Json
