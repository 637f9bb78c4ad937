import Deckwright.Json.Decoder
import Deckwright.Misread
import Deckwright.Text.Blank
set_option autoImplicit false

namespace Deckwright

structure Swatch where
  red : UInt8
  green : UInt8
  blue : UInt8
deriving DecidableEq

namespace Swatch

def black : Swatch := ⟨0, 0, 0⟩

instance : Inhabited Swatch := ⟨black⟩

def upperHexDigit (n : Nat) : Char :=
  if n < 10 then Char.ofNat ('0'.toNat + n) else Char.ofNat ('A'.toNat + (n - 10))

def channelText (b : UInt8) : List Char := [upperHexDigit (b.toNat / 16), upperHexDigit (b.toNat % 16)]

def text (s : Swatch) : List Char := '#' :: channelText s.red ++ channelText s.green ++ channelText s.blue

def toText (s : Swatch) : String := String.ofList s.text

def channel? (high low : Char) : Option UInt8 := do
  let h ← Json.hexValue? high
  let l ← Json.hexValue? low
  return UInt8.ofNat (h * 16 + l)

def ofDigits? : List Char → Option Swatch
  | [a, b, c, d, e, f] => do return ⟨← channel? a b, ← channel? c d, ← channel? e f⟩
  | _ => none

def dropSign : List Char → List Char
  | '#' :: s => s
  | s => s

def read (s : String) : Except Misread Swatch :=
  match ofDigits? (dropSign (Text.trim s.toList)) with
  | some swatch => .ok swatch
  | none => .error (.swatch s)

end Swatch

def Json.Read.swatch : Json.Reader Swatch := fun levels d =>
  match Json.Read.text levels d with
  | .error e => .error e
  | .ok s =>
    match Swatch.read s with
    | .ok swatch => .ok swatch
    | .error _ => .error .mismatch

end Deckwright
