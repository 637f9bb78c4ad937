import Deckwright.Deck.View
import Deckwright.Proofs.Deck.Count
set_option autoImplicit false

/- The two calls differ only in the lists that they write to, so what they share is shown of any change that
   settles where a card belongs. -/
namespace Deckwright

namespace Category

structure Placed (old new : Category) (card : Card) (inside : Bool) : Prop where
  includes : new.includes card = inside
  lasting : new.id = old.id ∧ new.name = old.name ∧ new.swatch = old.swatch ∧ new.filter = old.filter
  white : ∀ id, id ≠ card.id → new.whitelist.contains id = old.whitelist.contains id
  black : ∀ id, id ≠ card.id → new.blacklist.contains id = old.blacklist.contains id

structure Settles (change : Category → Category × Bool) (card : Card) (inside : Bool) : Prop where
  placed : ∀ c, Placed c (change c).1 card inside
  apart : ∀ c, c.Apart → (change c).1.Apart
  idle : ∀ c, (change c).2 = false → (change c).1 = c
  again : ∀ c members, (change { (change c).1 with members := members }).2 = false

theorem placed_others {old new : Category} {card other : Card} {inside : Bool} (placed : Placed old new card inside)
    (away : other.id ≠ card.id) : new.includes other = old.includes other := by
  obtain ⟨_, _, _, filter⟩ := placed.lasting
  rw [includes, includes, placed.white other.id away, placed.black other.id away, filter]

theorem force_in_settles (card : Card) : Settles (fun c => c.forceIn card) card true where
  placed c := by
    by_cases fits : c.filter.matchesCard card = true
    · simp only [forceIn, if_pos fits]
      refine ⟨?_, ⟨rfl, rfl, rfl, rfl⟩, fun _ _ => rfl, fun id away => OrderedSet.contains_erase_of_ne away⟩
      simp [includes, fits, OrderedSet.contains_erase_self]
    · simp only [forceIn, if_neg fits]
      refine ⟨?_, ⟨rfl, rfl, rfl, rfl⟩, fun id away => OrderedSet.contains_insert_of_ne away,
        fun id away => OrderedSet.contains_erase_of_ne away⟩
      simp [includes, OrderedSet.contains_erase_self, OrderedSet.contains_insert_self]
  apart c := (Deck.force_in_shape c card).2.2
  idle c := by
    by_cases fits : c.filter.matchesCard card = true
    · simp only [forceIn, if_pos fits]
      intro free
      rw [OrderedSet.erase_absent free]
    · simp only [forceIn, if_neg fits, Bool.or_eq_false_iff, Bool.not_eq_false']
      rintro ⟨free, held⟩
      rw [OrderedSet.erase_absent free, OrderedSet.insert_present held]
  again c members := by
    by_cases fits : c.filter.matchesCard card = true
    · simp [forceIn, fits, OrderedSet.contains_erase_self]
    · simp [forceIn, fits, OrderedSet.contains_erase_self, OrderedSet.contains_insert_self]

theorem keep_out_settles (card : Card) : Settles (fun c => c.keepOut card) card false where
  placed c := by
    by_cases fits : c.filter.matchesCard card = true
    · simp only [keepOut, if_pos fits]
      refine ⟨?_, ⟨rfl, rfl, rfl, rfl⟩, fun id away => OrderedSet.contains_erase_of_ne away,
        fun id away => OrderedSet.contains_insert_of_ne away⟩
      simp [includes, OrderedSet.contains_insert_self]
    · simp only [keepOut, if_neg fits]
      refine ⟨?_, ⟨rfl, rfl, rfl, rfl⟩, fun id away => OrderedSet.contains_erase_of_ne away, fun _ _ => rfl⟩
      simp [includes, fits, OrderedSet.contains_erase_self]
  apart c := (Deck.keep_out_shape c card).2.2
  idle c := by
    by_cases fits : c.filter.matchesCard card = true
    · simp only [keepOut, if_pos fits, Bool.or_eq_false_iff, Bool.not_eq_false']
      rintro ⟨free, held⟩
      rw [OrderedSet.erase_absent free, OrderedSet.insert_present held]
    · simp only [keepOut, if_neg fits]
      intro free
      rw [OrderedSet.erase_absent free]
  again c members := by
    by_cases fits : c.filter.matchesCard card = true
    · simp [keepOut, fits, OrderedSet.contains_erase_self, OrderedSet.contains_insert_self]
    · simp [keepOut, fits, OrderedSet.contains_erase_self]

end Category

namespace Deck

open Category (Placed Settles)

/-- What telling a category about a card does to a deck. Nothing else in the deck changes. -/
structure Told (d e : Deck) (old new : Category) (card : Card) (inside : Bool) : Prop where
  entries : e.entries = d.entries
  positions : e.positions = d.positions
  next : e.nextCategory = d.nextCategory
  others : ∃ front back, d.categories = front ++ old :: back ∧ e.categories = front ++ new :: back
  placed : Placed old new card inside
  shown : View.contains ⟨e, new⟩ card.id = (e.contains card.id && inside)
  unmoved : ∀ id, id ≠ card.id → View.contains ⟨e, new⟩ id = View.contains ⟨d, old⟩ id

def Heeds (d : Deck) (n : Nat) (old : Category) (card : Card) (inside : Bool)
    (call : Deck → Except DeckFault (Deck × Bool)) : Prop :=
  ∃ e new changed, call d = .ok (e, changed) ∧ e.category? old.name = some new ∧ Told d e old new card inside ∧
    call e = .ok (e, false) ∧
    (n < UInt32.size → ∀ id, id ≠ card.id → e.memberships.get? id = d.memberships.get? id)

theorem contains_cards {d : Deck} (listed : Listed d) (id : CardId) :
    d.contains id = true ↔ ∃ card ∈ d.cards, card.id = id := by
  rw [contains, listed.placed, List.findIdx?_isSome, List.any_eq_true]
  simp

theorem shown_iff {d : Deck} (viewed : Viewed d) {c : Category} (held : c ∈ d.categories) (id : CardId) :
    View.contains ⟨d, c⟩ id = true ↔ ∃ card ∈ d.cards, c.includes card = true ∧ card.id = id := by
  rw [View.contains, viewed.members c held]
  simp [and_assoc]

theorem category_of_split {d : Deck} (viewed : Viewed d) {front back : List Category} {c : Category}
    (split : d.categories = front ++ c :: back) : d.category? c.name = some c := by
  have named := viewed.named
  rw [split, List.map_append, List.map_cons, List.nodup_append] at named
  refine List.find?_eq_some_iff_append.2 ⟨by simp, front, back, split, fun other before => ?_⟩
  have away := named.2.2 other.name (List.mem_map_of_mem before) c.name (by simp)
  simpa using away

theorem told_of_placed {d e : Deck} {front back : List Category} {old new : Category} {card : Card} {inside : Bool}
    (listed : Listed d) (viewed : Viewed d) (after : Viewed e) (own : ∀ mine, d.card? card.id = some mine → mine = card)
    (before : d.categories = front ++ old :: back) (behind : e.categories = front ++ new :: back)
    (entries : e.entries = d.entries) (positions : e.positions = d.positions) (next : e.nextCategory = d.nextCategory)
    (placed : Placed old new card inside) : Told d e old new card inside := by
  have cards : e.cards = d.cards := by rw [Deck.cards, Deck.cards, entries]
  have same (id : CardId) : e.contains id = d.contains id := by rw [contains, contains, position?, position?, positions]
  have heldOld : old ∈ d.categories := by simp [before]
  have heldNew : new ∈ e.categories := by simp [behind]
  refine ⟨entries, positions, next, ⟨front, back, before, behind⟩, placed, ?_, fun id away => ?_⟩
  · rw [Bool.eq_iff_iff, shown_iff after heldNew, Bool.and_eq_true, same, contains_cards listed, cards]
    constructor
    · rintro ⟨mine, member, included, sameId⟩
      obtain rfl := own mine (sameId ▸ card_of_member listed member)
      exact ⟨⟨mine, member, rfl⟩, placed.includes ▸ included⟩
    · rintro ⟨⟨mine, member, sameId⟩, told⟩
      obtain rfl := own mine (sameId ▸ card_of_member listed member)
      exact ⟨mine, member, placed.includes.trans told, rfl⟩
  · rw [Bool.eq_iff_iff, shown_iff after heldNew, shown_iff viewed heldOld, cards]
    have others (other : Card) (named : other.id = id) : new.includes other = old.includes other :=
      Category.placed_others placed (named ▸ away)
    constructor
    · rintro ⟨other, member, included, named⟩
      exact ⟨other, member, (others other named).symm.trans included, named⟩
    · rintro ⟨other, member, included, named⟩
      exact ⟨other, member, (others other named).trans included, named⟩

theorem rows_unmoved {d e : Deck} {n : Nat} (before : Numbered n d) (after : Numbered n e) {old new : Category}
    {card : Card} {inside : Bool} (told : Told d e old new card inside) {id : CardId} (away : id ≠ card.id) :
    e.memberships.get? id = d.memberships.get? id := by
  obtain ⟨front, back, held, put⟩ := told.others
  have cards : e.cards = d.cards := by rw [Deck.cards, Deck.cards, told.entries]
  rw [before.rows, after.rows, cards]
  cases found : d.cards.find? fun other => other.id = id with
  | none => rfl
  | some other =>
    have named : other.id = id := by simpa using List.find?_some found
    have included := Category.placed_others told.placed (named.symm ▸ away)
    have homes : homes e.categories other = homes d.categories other := by
      apply OrderedSet.ext_mem
      intro k
      rw [held, put, mem_homes_middle, mem_homes_middle, included, told.placed.lasting.1]
    rw [Option.map_some, Option.map_some, homes]

theorem heeds_of_settles {n : Nat} {d : Deck} (reached : Reached n d) {name : String} {old : Category}
    (held : d.category? name = some old) {card : Card} (own : ∀ mine, d.card? card.id = some mine → mine = card)
    {change : Category → Category × Bool} {inside : Bool} (settles : Settles change card inside) :
    d.Heeds n old card inside fun d => d.changeCategory name change := by
  have listed := reached_listed reached
  have viewed := reached_viewed reached
  have moves : Moves d 0 (d.settled (d.changeCategory name change)) :=
    change_category_moves d name change (fun c => (settles.placed c).lasting.1) settles.apart
      fun c named => .inl ((settles.placed c).lasting.2.1.trans named)
  obtain ⟨front, back, split, rfl, called⟩ := change_category_held held change
  have placed := settles.placed old
  rw [called] at moves
  cases flag : (change old).2 with
  | false =>
    rw [flag, if_neg (by decide)] at called
    rw [settles.idle old flag] at placed
    exact ⟨d, old, false, called, held,
      told_of_placed listed viewed viewed own split split rfl rfl rfl placed, called, fun _ _ _ => rfl⟩
  | true =>
    rw [flag, if_pos rfl] at called moves
    let shown : Category := { (change old).1 with members := membersOf (change old).1 d.entries }
    have shownPlaced : Placed old shown card inside := ⟨placed.includes, placed.lasting, placed.white, placed.black⟩
    have viewedAfter : Viewed (d.changed front back (change old).1) := moves_viewed listed viewed moves
    have told : Told d (d.changed front back (change old).1) old shown card inside :=
      told_of_placed listed viewed viewedAfter own split rfl rfl rfl rfl shownPlaced
    have found : (d.changed front back (change old).1).category? old.name = some shown := by
      rw [← placed.lasting.2.1]
      exact category_of_split viewedAfter rfl
    obtain ⟨_, _, _, _, repeated⟩ := change_category_held found change
    have idle : (change shown).2 = false := settles.again old _
    rw [idle, if_neg (by decide)] at repeated
    refine ⟨_, shown, true, called, found, told, repeated, fun few id away => ?_⟩
    have numbered := reached_numbered reached (Nat.le_of_lt few)
    exact rows_unmoved numbered (moves_numbered listed numbered moves (Nat.le_of_lt few)) told away

/-- A card told to belong belongs and one told not to does not; a category shows it just when it belongs and
    is in the deck. Told again, the deck says that nothing has changed. No entry, no other category and no
    other card in this one has moved. -/
theorem placed_as_told {n : Nat} {d : Deck} (reached : Reached n d) {name : String} {old : Category}
    (held : d.category? name = some old) {card : Card} (own : ∀ mine, d.card? card.id = some mine → mine = card) :
    (d.Heeds n old card true fun d => d.forceIn name card) ∧ d.Heeds n old card false fun d => d.keepOut name card :=
  ⟨heeds_of_settles reached held own (Category.force_in_settles card),
    heeds_of_settles reached held own (Category.keep_out_settles card)⟩

theorem bears_placed :
    let bear := Card.ofFaces "bear" ⟨"", "", "", ""⟩ .common [Face.ofName "Bear"]
    let bare : Category := Category.ofSpec 0 ⟨"Herd", .nothing, ["bull"], ["boar"], .black⟩
    let d := (empty.after (.add bear 2)).after (.addCategory bare.toSpec)
    d.category? "Herd" = some bare ∧ d.card? bear.id = some bear ∧
      (d.Heeds 1 bare bear true fun d => d.forceIn "Herd" bear) ∧
      d.Heeds 1 bare bear false fun d => d.keepOut "Herd" bear := by
  intro bear bare d
  have reached : Reached 1 d := .change (.addCategory bare.toSpec) (.change (.add bear 2) .start)
  have held : d.category? "Herd" = some bare := by decide +kernel
  have own : d.card? bear.id = some bear := by decide +kernel
  exact ⟨held, own, placed_as_told reached held fun mine found => (Option.some.inj (own.symm.trans found)).symm⟩

end Deck

end Deckwright
