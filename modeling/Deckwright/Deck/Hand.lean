import Deckwright.Deck.Basic
import Deckwright.Random.ChaCha
set_option autoImplicit false

namespace Deckwright

structure SampleHand where
  library : List Card
  drawn : Nat
  handSize : Nat
  stream : ChaCha.Stream

namespace SampleHand

def openingSize : Nat := 7

def ofDeck (d : Deck) (seed : UInt64) : SampleHand where
  library := d.entries.flatMap fun e => List.replicate e.count.toNat e.card
  drawn := 0
  handSize := openingSize
  stream := .ofSeed seed

def hand (h : SampleHand) : List Card := h.library.take h.drawn

def remaining (h : SampleHand) : Nat := h.library.length - h.drawn

def deal (h : SampleHand) (size : Nat) : SampleHand :=
  let (library, stream) := h.stream.shuffle h.library
  ⟨library, min size library.length, size, stream⟩

def mulligan (h : SampleHand) : SampleHand := h.deal (h.handSize - 1)

def draw (h : SampleHand) : SampleHand × Option Card :=
  if h.drawn < h.library.length then ({ h with drawn := h.drawn + 1 }, h.library[h.drawn]?)
  else (h, none)

end SampleHand

end Deckwright
