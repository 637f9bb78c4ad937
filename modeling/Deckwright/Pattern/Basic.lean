import Deckwright.CharSet.Basic
set_option autoImplicit false

/- Which match is found first is of no account, so a pattern says only what may follow what. -/
namespace Deckwright

inductive Look where
  | textStart
  | textEnd
  | lineStart
  | lineEnd
  | lineStartCrlf
  | lineEndCrlf
  | wordEdge (word : CharSet)
  | noWordEdge (word : CharSet)
  | wordStart (word : CharSet)
  | wordEnd (word : CharSet)
  | noWordBefore (word : CharSet)
  | noWordAfter (word : CharSet)

inductive Pattern where
  | empty
  | one (s : CharSet)
  | look (l : Look)
  | seq (p q : Pattern)
  | either (p q : Pattern)
  | repeated (p : Pattern) (least : Nat) (most : Option Nat)

def Look.holds (l : Look) (before after : Option Char) : Bool :=
  let inWord (word : CharSet) (c : Option Char) := c.any fun c => word.contains c.toNat
  match l with
  | .textStart => before.isNone
  | .textEnd => after.isNone
  | .lineStart => before.isNone || before = some '\n'
  | .lineEnd => after.isNone || after = some '\n'
  | .lineStartCrlf => before.isNone || before = some '\n' || (before = some '\r' && after != some '\n')
  | .lineEndCrlf => after.isNone || after = some '\r' || (after = some '\n' && before != some '\r')
  | .wordEdge word => inWord word before != inWord word after
  | .noWordEdge word => inWord word before == inWord word after
  | .wordStart word => !inWord word before && inWord word after
  | .wordEnd word => inWord word before && !inWord word after
  | .noWordBefore word => !inWord word before
  | .noWordAfter word => !inWord word after

end Deckwright
