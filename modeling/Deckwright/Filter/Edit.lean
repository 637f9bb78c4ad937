import Deckwright.Filter.Basic
set_option autoImplicit false

namespace Deckwright

inductive EditFault where
  | lastChild
  | outOfRange
deriving DecidableEq

namespace Filter

def push (m : GroupMode) (fs : List Filter) (f : Filter) : Filter := .group m (fs ++ [f])

def remove (m : GroupMode) (fs : List Filter) (i : Nat) : Except EditFault (Filter × Filter) :=
  if fs.length ≤ 1 then .error .lastChild
  else
    match fs[i]? with
    | some f => .ok (f, .group m (fs.eraseIdx i))
    | none => .error .outOfRange

def wrap (m : GroupMode) (fs : List Filter) (i : Nat) (inner : GroupMode) : Except EditFault Filter :=
  match fs[i]? with
  | some f => .ok (.group m (fs.set i (.group inner [f])))
  | none => .error .outOfRange

def replace (m : GroupMode) (fs : List Filter) (i : Nat) (f : Filter) : Except EditFault Filter :=
  if i < fs.length then .ok (.group m (fs.set i f)) else .error .outOfRange

def at? : List Nat → Filter → Option Filter
  | [], f => some f
  | _ :: _, .leaf _ => none
  | i :: path, .group _ fs => fs[i]?.bind (at? path)

def putAt : Filter → List Nat → Filter → Filter
  | _, [], g => g
  | .leaf l, _ :: _, _ => .leaf l
  | .group m fs, i :: path, g => .group m (fs.modify i fun f => putAt f path g)

end Filter

end Deckwright
