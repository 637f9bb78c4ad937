import Deckwright.Deck.Document
import Deckwright.Proofs.Deck.Count
import Deckwright.Proofs.Outcome
import Mathlib.Data.List.Basic
set_option autoImplicit false

namespace Deckwright

def copiesOf (rs : List EntryRecord) (id : CardId) : Nat :=
  ((rs.filter fun r => r.id = id).map fun r => r.count.toNat).sum

def idsOf (rs : List EntryRecord) : List CardId := (rs.map EntryRecord.id).eraseDups

def shelved (entries : List Entry) (i : Nat) (spec : CategorySpec) : Category :=
  { Category.ofSpec (UInt32.ofNat i) spec with
    members := Deck.membersOf (Category.ofSpec (UInt32.ofNat i) spec) entries }

namespace DeckRecord

/-- A record with known cards, of each at least one copy and no more than can be counted, and with
    categories that all have names of their own. -/
structure Sound (inventory : Inventory) (r : DeckRecord) : Prop where
  known : ∀ e ∈ r.cards, inventory.contains e.id = true
  counted : ∀ e ∈ r.cards, 1 ≤ e.count
  bounded : ∀ id, copiesOf r.cards id < UInt32.size
  distinct : (r.categories.map CategorySpec.name).Nodup

structure Accounts (inventory : Inventory) (r : DeckRecord) (d : Deck) : Prop where
  order : d.entries.map Entry.id = idsOf r.cards
  cards : ∀ e ∈ d.entries, inventory.get? e.id = some e.card
  counts : ∀ e ∈ d.entries, e.count.toNat = copiesOf r.cards e.id
  categories : d.categories = r.categories.mapIdx (shelved d.entries)

end DeckRecord

section Copies

variable {rs : List EntryRecord} {r : EntryRecord}

theorem copies_append (rs others : List EntryRecord) (id : CardId) :
    copiesOf (rs ++ others) id = copiesOf rs id + copiesOf others id := by
  simp [copiesOf]

theorem copies_concat (rs : List EntryRecord) (r : EntryRecord) (id : CardId) :
    copiesOf (rs ++ [r]) id = copiesOf rs id + if id = r.id then r.count.toNat else 0 := by
  rw [copies_append]
  by_cases own : id = r.id
  · simp [copiesOf, own]
  · simp [copiesOf, own, Ne.symm own]

theorem ids_concat (rs : List EntryRecord) (r : EntryRecord) :
    idsOf (rs ++ [r]) = if r.id ∈ idsOf rs then idsOf rs else idsOf rs ++ [r.id] := by
  simp only [idsOf, List.mem_eraseDups]
  rw [List.map_append, List.eraseDups_append]
  generalize rs.map EntryRecord.id = ids
  by_cases again : r.id ∈ ids <;> simp [List.removeAll, List.eraseDups_cons, again]

end Copies

namespace Deck

open DeckRecord (addEntry)

structure Tallied (inventory : Inventory) (rs : List EntryRecord) (d : Deck) : Prop where
  order : d.cards.map Card.id = idsOf rs
  known : ∀ card ∈ d.cards, inventory.get? card.id = some card
  counts : ∀ id, (d.count id).toNat = copiesOf rs id
  listed : Listed d
  bare : d.categories = []
  next : d.nextCategory = 0

section Entries

variable {inventory : Inventory} {rs done : List EntryRecord} {r : EntryRecord} {d full : Deck} {card : Card}

theorem tallied_empty : Tallied inventory [] empty :=
  ⟨rfl, by simp [empty, cards], fun _ => rfl, listed_empty, rfl, rfl⟩

theorem tallied_add (tallied : Tallied inventory rs d) (found : inventory.get? r.id = some card)
    (taken : (d.add card r.count).2 = true) : Tallied inventory (rs ++ [r]) (d.add card r.count).1 := by
  have named : card.id = r.id := by simpa using List.find?_some found
  have listed := tallied.listed
  have counts (id : CardId) : ((d.add card r.count).1.count id).toNat = copiesOf (rs ++ [r]) id := by
    rw [count_added listed taken, tallied.counts, copies_concat, named]
  rcases add_cases d card r.count with ⟨idle, _⟩ | ⟨i, count, present, positive, counted, more⟩ |
    ⟨absent, positive, entered⟩
  · rw [idle] at taken
    cases taken
  · have again : r.id ∈ idsOf rs := by
      obtain ⟨front, e, back, held, _, same, _⟩ := position_split listed present
      rw [← tallied.order, ← entry_ids, held, ← named, ← same]
      simp
    rw [more] at counts ⊢
    refine ⟨?_, ?_, counts, listed_recount listed i count (sum_nonzero positive counted), tallied.bare, tallied.next⟩
    · rw [cards_recount, ids_concat, if_pos again]
      exact tallied.order
    · rw [cards_recount]
      exact tallied.known
  · have new : r.id ∉ idsOf rs := by
      rw [← tallied.order, ← named]
      intro member
      obtain ⟨other, inside, same⟩ := List.mem_map.1 member
      exact absent_ids listed absent other inside same
    rw [entered] at counts ⊢
    refine ⟨?_, ?_, counts, listed_enter listed card r.count positive absent, by simp [append, tallied.bare], tallied.next⟩
    · rw [cards_append, List.map_append, tallied.order, ids_concat, if_neg new, ← named]
      rfl
    · rw [cards_append]
      intro other member
      rcases List.mem_append.1 member with old | last
      · exact tallied.known other old
      · rw [List.mem_singleton.1 last, named]
        exact found

theorem taken_iff {n : UInt32} {e : DeckFault} :
    (match d.add card n with
      | (next, true) => Except.ok next
      | (_, false) => Except.error e) = .ok full ↔ (d.add card n).2 = true ∧ full = (d.add card n).1 := by
  rcases d.add card n with ⟨next, _ | _⟩
  · exact iff_of_false nofun nofun
  · constructor
    · exact fun made => ⟨rfl, (Except.ok.inj made).symm⟩
    · exact fun both => congrArg Except.ok both.2.symm

theorem add_entry_iff : addEntry inventory d r = .ok full ↔
    ∃ card, inventory.get? r.id = some card ∧ (d.add card r.count).2 = true ∧ full = (d.add card r.count).1 := by
  rw [addEntry]
  cases inventory.get? r.id with
  | none => simp
  | some card =>
    simp only [Option.some.injEq, exists_eq_left']
    by_cases none : r.count = 0
    · rw [if_pos none, add, if_pos none]
      simp
    · rw [if_neg none]
      exact taken_iff

theorem tallied_all (tallied : Tallied inventory done d) (folded : rs.foldlM (addEntry inventory) d = .ok full) :
    (∀ r ∈ rs, inventory.contains r.id = true ∧ 1 ≤ r.count) ∧ Tallied inventory (done ++ rs) full := by
  induction rs generalizing done d with
  | nil =>
    obtain rfl := Except.ok.inj folded
    exact ⟨by simp, by simpa using tallied⟩
  | cons r rest ih =>
    obtain ⟨next, added, folded⟩ := folded_cons.1 folded
    obtain ⟨card, found, taken, rfl⟩ := add_entry_iff.1 added
    obtain ⟨others, whole⟩ := ih (tallied_add tallied found taken) folded
    have some : 0 < r.count.toNat := ((add_taken d card r.count).1 taken).1
    refine ⟨fun other member => ?_, by simpa using whole⟩
    rcases List.mem_cons.1 member with rfl | later
    · refine ⟨?_, ?_⟩
      · rw [Inventory.contains, found]
        rfl
      · rw [UInt32.le_iff_toNat_le]
        exact some
    · exact others other later

theorem tally_all (tallied : Tallied inventory done d) (known : ∀ r ∈ rs, inventory.contains r.id = true)
    (counted : ∀ r ∈ rs, 1 ≤ r.count) (bounded : ∀ id, copiesOf (done ++ rs) id < UInt32.size) :
    ∃ full, rs.foldlM (addEntry inventory) d = .ok full := by
  induction rs generalizing done d with
  | nil => exact ⟨d, rfl⟩
  | cons r rest ih =>
    obtain ⟨card, found⟩ := Option.isSome_iff_exists.1 (known r (by simp))
    have named : card.id = r.id := by simpa using List.find?_some found
    have taken : (d.add card r.count).2 = true := by
      have some := UInt32.le_iff_toNat_le.1 (counted r (by simp))
      have within := bounded r.id
      rw [List.append_cons, copies_append, copies_concat, if_pos rfl] at within
      rw [add_taken, named, tallied.counts]
      exact ⟨some, by omega⟩
    have added := add_entry_iff.2 ⟨card, found, taken, rfl⟩
    obtain ⟨full, folded⟩ := ih (tallied_add tallied found taken)
      (fun other member => known other (List.mem_cons_of_mem r member))
      (fun other member => counted other (List.mem_cons_of_mem r member)) (by simpa using bounded)
    exact ⟨full, folded_cons.2 ⟨_, added, folded⟩⟩

end Entries

def shelve (d : Deck) (spec : CategorySpec) : Except DeckFault Deck := (d.addCategory spec).map Prod.fst

structure Shelved (specs : List CategorySpec) (d : Deck) : Prop where
  categories : d.categories = specs.mapIdx (shelved d.entries)
  next : d.nextCategory = UInt32.ofNat specs.length
  distinct : (specs.map CategorySpec.name).Nodup

section Categories

variable {specs done : List CategorySpec} {spec : CategorySpec} {d full : Deck}

theorem shelve_iff : d.shelve spec = .ok full ↔
    d.containsCategory spec.name = false ∧ full = d.widen spec := by
  rw [shelve]
  cases held : d.containsCategory spec.name with
  | true =>
    rw [add_category_refused held]
    exact iff_of_false nofun (fun both => nomatch both.1)
  | false =>
    rw [add_category_fresh held]
    constructor
    · exact fun made => ⟨rfl, (Except.ok.inj made).symm⟩
    · exact fun both => congrArg Except.ok both.2.symm

theorem shelved_names (entries : List Entry) (specs : List CategorySpec) :
    (specs.mapIdx (shelved entries)).map Category.name = specs.map CategorySpec.name := by
  apply List.ext_getElem (by simp)
  intro i _ _
  simp [shelved, Category.ofSpec]

theorem shelf_free (shelf : Shelved done d) {name : String} :
    d.containsCategory name = false ↔ name ∉ done.map CategorySpec.name := by
  rw [contains_category_false, ← shelved_names d.entries, ← shelf.categories]
  simp

theorem shelved_next (shelf : Shelved done d) (free : d.containsCategory spec.name = false) :
    Shelved (done ++ [spec]) (d.widen spec) := by
  refine ⟨?_, ?_, ?_⟩
  · rw [List.mapIdx_concat, widen, changed, shelf.next, shelf.categories]
    rfl
  · rw [List.length_append, UInt32.ofNat_add, ← shelf.next]
    rfl
  · rw [List.map_append, List.map_singleton, List.nodup_append]
    refine ⟨shelf.distinct, by simp, fun name member other last same => ?_⟩
    rw [List.mem_singleton] at last
    exact (shelf_free shelf).1 free (last ▸ same ▸ member)

theorem shelved_all (shelf : Shelved done d)
    (folded : specs.foldlM shelve d = .ok full) :
    Shelved (done ++ specs) full ∧ full.entries = d.entries := by
  induction specs generalizing done d with
  | nil =>
    obtain rfl := Except.ok.inj folded
    exact ⟨by simpa using shelf, rfl⟩
  | cons spec rest ih =>
    obtain ⟨next, added, folded⟩ := folded_cons.1 folded
    obtain ⟨free, rfl⟩ := shelve_iff.1 added
    obtain ⟨whole, same⟩ := ih (shelved_next shelf free) folded
    exact ⟨by simpa using whole, same⟩

theorem shelve_all (shelf : Shelved done d) (distinct : ((done ++ specs).map CategorySpec.name).Nodup) :
    ∃ full, specs.foldlM shelve d = .ok full := by
  induction specs generalizing done d with
  | nil => exact ⟨d, rfl⟩
  | cons spec rest ih =>
    have free : d.containsCategory spec.name = false := by
      rw [shelf_free shelf]
      intro member
      rw [List.map_append, List.nodup_append] at distinct
      exact distinct.2.2 spec.name member spec.name (by simp) rfl
    obtain ⟨full, folded⟩ := ih (shelved_next shelf free) (by simpa using distinct)
    exact ⟨full, folded_cons.2 ⟨_, shelve_iff.2 ⟨free, rfl⟩, folded⟩⟩

end Categories

end Deck

namespace DeckRecord

variable {inventory : Inventory} {r : DeckRecord} {d : Deck}

theorem to_deck_iff : r.toDeck inventory = .ok d ↔
    ∃ bare, r.cards.foldlM (addEntry inventory) Deck.empty = .ok bare ∧
      r.categories.foldlM Deck.shelve bare = .ok d := by
  rw [toDeck, ← bind_ok]
  cases r.cards.foldlM (addEntry inventory) Deck.empty <;> rfl

theorem shelved_bare {rs : List EntryRecord} {bare : Deck} (tallied : Deck.Tallied inventory rs bare) :
    Deck.Shelved [] bare :=
  ⟨tallied.bare, tallied.next, List.nodup_nil⟩

theorem to_deck_accounts (made : r.toDeck inventory = .ok d) : r.Sound inventory ∧ r.Accounts inventory d := by
  obtain ⟨bare, entered, founded⟩ := to_deck_iff.1 made
  obtain ⟨each, tallied⟩ := Deck.tallied_all Deck.tallied_empty entered
  obtain ⟨shelf, same⟩ := Deck.shelved_all (shelved_bare tallied) founded
  rw [List.nil_append] at tallied shelf
  refine ⟨⟨fun e member => (each e member).1, fun e member => (each e member).2, fun id => ?_, shelf.distinct⟩,
    ?_, fun e member => ?_, fun e member => ?_, shelf.categories⟩
  · rw [← tallied.counts]
    exact (bare.count id).toNat_lt_size
  · rw [same, Deck.entry_ids]
    exact tallied.order
  · rw [same] at member
    exact tallied.known e.card (List.mem_map_of_mem member)
  · rw [same] at member
    rw [← tallied.counts, Deck.count_own tallied.listed member]

theorem to_deck_made (sound : r.Sound inventory) : ∃ d, r.toDeck inventory = .ok d := by
  obtain ⟨bare, entered⟩ := Deck.tally_all Deck.tallied_empty sound.known sound.counted sound.bounded
  obtain ⟨_, tallied⟩ := Deck.tallied_all Deck.tallied_empty entered
  obtain ⟨d, founded⟩ := Deck.shelve_all (shelved_bare tallied) sound.distinct
  exact ⟨d, to_deck_iff.2 ⟨bare, entered, founded⟩⟩

end DeckRecord

end Deckwright
