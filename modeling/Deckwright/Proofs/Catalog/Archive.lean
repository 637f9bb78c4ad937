import Deckwright.Catalog.Archive
import Deckwright.Proofs.Card.Packed
import Deckwright.Proofs.Catalog.Inventory
set_option autoImplicit false

namespace Deckwright

namespace Inventory

/-- What can be counted in 64 bits, as everything can be that a machine holds. -/
structure Storable (inv : Inventory) : Prop where
  few : inv.cards.length < UInt64.size
  short : ∀ c ∈ inv.cards, (Packed.card c).length < UInt64.size

theorem archive_codes {inv : Inventory} (storable : inv.Storable) :
    Packed.Codes (Packed.Reader.list Packed.Reader.card) inv.archive inv.cards :=
  Packed.codes_list storable.few fun c member => Packed.packs_card c (storable.short c member)

/-- Whatever comes behind an archive, the inventory that is read has the same cards in the same order,
    each with all that is stored of it, and so the same index. -/
theorem archive_read_back {cards : List Card} (storable : (ofCards cards).Storable) (rest : Text.Octets) :
    ∃ read, ofArchive ((ofCards cards).archive ++ rest) = .ok read ∧ read.cards = (ofCards cards).cards ∧
      read.index = (ofCards cards).index := by
  refine ⟨ofCards cards, ?_, rfl, rfl⟩
  rw [ofArchive, (archive_codes storable).whole rest]
  dsimp only
  rw [of_cards_again]

-- A second card of the same id, and a mana value that is no number.
theorem delver_archive_read_back :
    let night : Face := { Face.ofName "Insectile Aberration" with
      power := some (Stat.ofText "3")
      loyalty := some (Stat.ofText "*") }
    let faces := [Face.ofName "Delver of Secrets", night]
    let delver : Card := { Card.ofFaces "delver" ⟨"Innistrad", "", "ISD", "2011"⟩ .common faces with
      manaValue := .nan
      multiverseId := some 226749 }
    let inv := ofCards [delver.withLegality "Legacy" .legal, Card.ofFaces "delver" ⟨"", "", "", ""⟩ .rare []]
    ∃ read, ofArchive (inv.archive ++ [0, 255]) = .ok read ∧ read.cards = inv.cards ∧ read.index = inv.index := by
  intro night faces delver inv
  have storable : inv.Storable := ⟨by decide +kernel, by decide +kernel⟩
  exact archive_read_back storable [0, 255]

/-- An archive that ends too early is refused because it ends. -/
theorem cut_archive_refused {inv : Inventory} (storable : inv.Storable) {s : Text.Octets} (part : s <+: inv.archive)
    (cut : s ≠ inv.archive) : ofArchive s = .error .endOfInput := by
  have shorter : s.length < inv.archive.length :=
    Nat.lt_of_le_of_ne part.length_le fun same => cut (part.eq_of_length same)
  have refused := (archive_codes storable).short s.length shorter
  rw [← List.prefix_iff_eq_take.1 part] at refused
  rw [ofArchive, refused]

theorem cut_delver_refused :
    let delver := Card.ofFaces "delver" ⟨"Innistrad", "", "ISD", "2011"⟩ .common [Face.ofName "Delver of Secrets"]
    let inv : Inventory := ⟨[delver]⟩
    inv.archive.take 30 ≠ inv.archive ∧ ofArchive (inv.archive.take 30) = .error .endOfInput := by
  intro delver inv
  have storable : inv.Storable := ⟨by decide, by decide +kernel⟩
  have cut : inv.archive.take 30 ≠ inv.archive := by decide +kernel
  exact ⟨cut, cut_archive_refused storable (List.take_prefix 30 _) cut⟩

end Inventory

end Deckwright
