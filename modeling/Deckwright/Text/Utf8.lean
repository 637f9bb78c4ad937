set_option autoImplicit false

namespace Deckwright.Text

abbrev Octets := List UInt8

def octet (n : Nat) : UInt8 := UInt8.ofNat n

def charOctets (c : Char) : Octets :=
  let n := c.toNat
  if n < 0x80 then [octet n]
  else if n < 0x800 then [octet (0xC0 + n / 64), octet (0x80 + n % 64)]
  else if n < 0x10000 then [octet (0xE0 + n / 4096), octet (0x80 + n / 64 % 64), octet (0x80 + n % 64)]
  else [octet (0xF0 + n / 262144), octet (0x80 + n / 4096 % 64), octet (0x80 + n / 64 % 64), octet (0x80 + n % 64)]

def toOctets (s : List Char) : Octets := s.flatMap charOctets

def isContinuation (b : UInt8) : Bool := 0x80 ≤ b.toNat && b.toNat < 0xC0

def isScalar (n : Nat) : Bool := n < 0xD800 || (0xE000 ≤ n && n < 0x110000)

-- The shortest form is the only one: a longer spelling of a small number is refused.
def scalarFrom (least n : Nat) (rest : Octets) : Option (Char × Octets) :=
  if least ≤ n && isScalar n then some (Char.ofNat n, rest) else none

def nextChar : Octets → Option (Char × Octets)
  | [] => none
  | a :: s =>
    let n := a.toNat
    if n < 0x80 then some (Char.ofNat n, s)
    else if n < 0xC0 then none
    else if n < 0xE0 then
      match s with
      | b :: s => if isContinuation b then scalarFrom 0x80 ((n - 0xC0) * 64 + (b.toNat - 0x80)) s else none
      | _ => none
    else if n < 0xF0 then
      match s with
      | b :: c :: s =>
        if isContinuation b && isContinuation c then
          scalarFrom 0x800 ((n - 0xE0) * 4096 + (b.toNat - 0x80) * 64 + (c.toNat - 0x80)) s
        else none
      | _ => none
    else if n < 0xF8 then
      match s with
      | b :: c :: d :: s =>
        if isContinuation b && isContinuation c && isContinuation d then
          scalarFrom 0x10000
            ((n - 0xF0) * 262144 + (b.toNat - 0x80) * 4096 + (c.toNat - 0x80) * 64 + (d.toNat - 0x80)) s
        else none
      | _ => none
    else none

def readFrom : Nat → Octets → List Char × Octets
  | 0, s => ([], s)
  | fuel + 1, s =>
    match nextChar s with
    | none => ([], s)
    | some (c, rest) =>
      let (cs, left) := readFrom fuel rest
      (c :: cs, left)

def readOctets (s : Octets) : List Char × Octets := readFrom s.length s

def ofOctets? (s : Octets) : Option (List Char) :=
  let (cs, left) := readOctets s
  if left.isEmpty then some cs else none

end Deckwright.Text
