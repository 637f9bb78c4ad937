set_option autoImplicit false

namespace Deckwright

inductive Progress where
  | unknown
  | percent (n : Nat)
deriving DecidableEq

structure Meter where
  total : Nat
  done : Nat
  step : Nat
  reported : Nat
deriving DecidableEq

namespace Meter

def ofTotal (total step : Nat) : Meter := ⟨total, 0, max step 1, 0⟩

def opening (m : Meter) : Progress := if m.total = 0 then .unknown else .percent 0

def percent (m : Meter) : Nat := min m.done m.total * 100 / m.total

def isDue (m : Meter) : Bool :=
  m.total ≠ 0 && (m.reported + m.step ≤ m.percent || (m.percent = 100 && m.reported < 100))

def advance (m : Meter) : Meter × Option Progress :=
  let next := { m with done := m.done + 1 }
  if next.isDue then ({ next with reported := next.percent }, some (.percent next.percent))
  else (next, none)

end Meter

end Deckwright
