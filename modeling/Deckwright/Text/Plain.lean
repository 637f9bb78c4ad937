import Deckwright.Text.Case
set_option autoImplicit false

namespace Deckwright.Text

def plainChar (c : Char) : List Char :=
  match c.toNat with
  | 0x2018 | 0x2019 => ['\'']
  | 0x201C | 0x201D => ['"']
  | 0x2012 | 0x2013 | 0x2014 | 0x2015 | 0x2212 => ['-']
  | 0x2026 => ['.', '.', '.']
  | 0xC6 | 0xE6 => ['a', 'e']
  | 0xE1 | 0xE0 | 0xE2 | 0xE4 => ['a']
  | 0xE9 | 0xE8 | 0xEA => ['e']
  | 0xED => ['i']
  | 0xF3 | 0xF6 => ['o']
  | 0xFA | 0xFB | 0xFC => ['u']
  | _ => lowerChar c

def plain (s : List Char) : List Char := s.flatMap plainChar

def plained (s : String) : String := String.ofList (plain s.toList)

theorem plain_append (s t : List Char) : plain (s ++ t) = plain s ++ plain t := by
  simp [plain]

end Deckwright.Text
