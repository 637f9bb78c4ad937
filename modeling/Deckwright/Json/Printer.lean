import Deckwright.Binary64.Decimal
import Deckwright.Json.Value
set_option autoImplicit false

namespace Deckwright.Json

def hexDigit (n : Nat) : Char :=
  if n < 10 then Char.ofNat ('0'.toNat + n) else Char.ofNat ('a'.toNat + (n - 10))

def textChar (c : Char) : List Char :=
  if c = '"' then ['\\', '"']
  else if c = '\\' then ['\\', '\\']
  else if c.toNat = 8 then ['\\', 'b']
  else if c.toNat = 12 then ['\\', 'f']
  else if c = '\n' then ['\\', 'n']
  else if c = '\r' then ['\\', 'r']
  else if c = '\t' then ['\\', 't']
  else if c.toNat < 32 then ['\\', 'u', '0', '0', hexDigit (c.toNat / 16), hexDigit (c.toNat % 16)]
  else [c]

def quoted (s : String) : List Char := '"' :: s.toList.flatMap textChar ++ ['"']

def integerText (n : Int) : List Char :=
  (if n < 0 then ['-'] else []) ++ Nat.toDigits 10 n.natAbs

def scalarText : Json → List Char
  | .null => ['n', 'u', 'l', 'l']
  | .bool true => ['t', 'r', 'u', 'e']
  | .bool false => ['f', 'a', 'l', 's', 'e']
  | .integer n => integerText n
  | .real x => if x.isFinite then x.pointedText else ['n', 'u', 'l', 'l']
  | .text s => quoted s
  | .list _ | .record _ => []

mutual

def compact : Json → List Char
  | .list items => '[' :: compactItems items
  | .record fields => '{' :: compactFields fields
  | j => scalarText j

def compactItems : List Json → List Char
  | [] => [']']
  | [j] => compact j ++ [']']
  | j :: rest => compact j ++ ',' :: compactItems rest

def compactFields : List (String × Json) → List Char
  | [] => ['}']
  | [(k, j)] => quoted k ++ ':' :: compact j ++ ['}']
  | (k, j) :: rest => quoted k ++ ':' :: compact j ++ ',' :: compactFields rest

end

def newLine (level : Nat) : List Char := '\n' :: List.replicate (2 * level) ' '

mutual

def indented (level : Nat) : Json → List Char
  | .list [] => ['[', ']']
  | .list items => '[' :: newLine (level + 1) ++ indentedItems level items
  | .record [] => ['{', '}']
  | .record fields => '{' :: newLine (level + 1) ++ indentedFields level fields
  | j => scalarText j

def indentedItems (level : Nat) : List Json → List Char
  | [] => newLine level ++ [']']
  | [j] => indented (level + 1) j ++ newLine level ++ [']']
  | j :: rest => indented (level + 1) j ++ ',' :: newLine (level + 1) ++ indentedItems level rest

def indentedFields (level : Nat) : List (String × Json) → List Char
  | [] => newLine level ++ ['}']
  | [(k, j)] => quoted k ++ ':' :: ' ' :: indented (level + 1) j ++ newLine level ++ ['}']
  | (k, j) :: rest =>
    quoted k ++ ':' :: ' ' :: indented (level + 1) j ++ ',' :: newLine (level + 1) ++ indentedFields level rest

end

def toText (j : Json) : String := String.ofList (compact j)

def toIndentedText (j : Json) : String := String.ofList (indented 0 j)

end Deckwright.Json
