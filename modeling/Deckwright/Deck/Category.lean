import Deckwright.Deck.Swatch
import Deckwright.Filter.Basic
set_option autoImplicit false

namespace Deckwright

abbrev CategoryId := UInt32

structure CategorySpec where
  name : String
  filter : Filter
  whitelist : List CardId
  blacklist : List CardId
  swatch : Swatch
deriving DecidableEq

structure Category where
  id : CategoryId
  name : String
  swatch : Swatch
  filter : Filter
  whitelist : OrderedSet CardId
  blacklist : OrderedSet CardId
  members : List CardId
deriving DecidableEq

namespace Category

-- A card on both lists stays out.
def ofSpec (id : CategoryId) (spec : CategorySpec) : Category :=
  let blacklist := OrderedSet.ofList spec.blacklist
  { id := id
    name := spec.name
    swatch := spec.swatch
    filter := spec.filter
    whitelist := .ofList (spec.whitelist.filter fun card => !blacklist.contains card)
    blacklist := blacklist
    members := [] }

def toSpec (c : Category) : CategorySpec :=
  ⟨c.name, c.filter, c.whitelist.toList, c.blacklist.toList, c.swatch⟩

def includes (c : Category) (card : Card) : Bool :=
  !c.blacklist.contains card.id && (c.whitelist.contains card.id || c.filter.matchesCard card)

def forceIn (c : Category) (card : Card) : Category × Bool :=
  let wasOut := c.blacklist.contains card.id
  let c := { c with blacklist := c.blacklist.erase card.id }
  if c.filter.matchesCard card then (c, wasOut)
  else
    let wasIn := c.whitelist.contains card.id
    ({ c with whitelist := c.whitelist.insert card.id }, wasOut || !wasIn)

def keepOut (c : Category) (card : Card) : Category × Bool :=
  let wasIn := c.whitelist.contains card.id
  let c := { c with whitelist := c.whitelist.erase card.id }
  if c.filter.matchesCard card then
    let wasOut := c.blacklist.contains card.id
    ({ c with blacklist := c.blacklist.insert card.id }, wasIn || !wasOut)
  else (c, wasIn)

def forget (c : Category) (id : CardId) : Category :=
  { c with
    whitelist := c.whitelist.erase id
    blacklist := c.blacklist.erase id
    members := c.members.erase id }

end Category

end Deckwright
