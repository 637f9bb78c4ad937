import Deckwright.Proofs.Deck.Numbers
set_option autoImplicit false

/- Entries and places never depend on the categories, and names, lists and numbers of the categories never on
   the cards, so the two are followed apart. What is derived from both is settled by the agreements. -/
namespace Deckwright

def Category.unshown (c : Category) : Category := { c with members := [] }

namespace Deck

inductive Growth where
  | card (card : Card) (n : UInt32)
  | category (spec : CategorySpec)

/-- Cards and categories in one order that keeps the order of the cards and that of the categories. -/
inductive Interleaving : List (Card × UInt32) → List CategorySpec → List Growth → Prop where
  | done : Interleaving [] [] []
  | card {cards : List (Card × UInt32)} {specs : List CategorySpec} {steps : List Growth} (card : Card) (n : UInt32)
    (rest : Interleaving cards specs steps) : Interleaving ((card, n) :: cards) specs (.card card n :: steps)
  | category {cards : List (Card × UInt32)} {specs : List CategorySpec} {steps : List Growth} (spec : CategorySpec)
    (rest : Interleaving cards specs steps) : Interleaving cards (spec :: specs) (.category spec :: steps)

structure Grown where
  deck : Deck
  added : List Bool
  founded : List (Except DeckFault CategoryId)

def grow (d : Deck) : List Growth → Grown
  | [] => ⟨d, [], []⟩
  | .card card n :: rest =>
    let (next, done) := d.add card n
    let later := next.grow rest
    { later with added := done :: later.added }
  | .category spec :: rest =>
    let result := d.addCategory spec
    let later := (d.settled result).grow rest
    { later with founded := result.map Prod.snd :: later.founded }

def SameCards (d e : Deck) : Prop := d.entries = e.entries ∧ d.positions = e.positions

def SameShelf (d e : Deck) : Prop :=
  d.categories.map Category.unshown = e.categories.map Category.unshown ∧ d.nextCategory = e.nextCategory

section Apart

variable {d e : Deck} (card : Card) (n : UInt32) (spec : CategorySpec)

theorem add_same_cards (same : SameCards d e) :
    (d.add card n).2 = (e.add card n).2 ∧ SameCards (d.add card n).1 (e.add card n).1 := by
  obtain ⟨entries, positions⟩ := same
  have place : d.position? card.id = e.position? card.id := by rw [position?, position?, positions]
  by_cases none : n = 0
  · rw [add, add, if_pos none, if_pos none]
    exact ⟨rfl, entries, positions⟩
  · rw [add, add, if_neg none, if_neg none, place]
    cases e.position? card.id with
    | none =>
      have entered : (d.append card n).entries = (e.append card n).entries := by simp only [append, entries]
      have placed : (d.append card n).positions = (e.append card n).positions := by
        simp only [append, entries, positions]
      exact ⟨rfl, entered, placed⟩
    | some i =>
      have held : d.countAt i = e.countAt i := by rw [countAt, countAt, entries]
      dsimp only
      rw [held]
      cases sum? (e.countAt i) n with
      | none => exact ⟨rfl, entries, positions⟩
      | some count =>
        have counted : (d.setCountOf i count).entries = (e.setCountOf i count).entries := by
          simp only [setCountOf, entries]
        exact ⟨rfl, counted, positions⟩

theorem take_in_unshown (c : Category) : (takeIn card c).unshown = c.unshown := by
  unfold takeIn
  split <;> rfl

theorem add_same_shelf : SameShelf (d.add card n).1 d := by
  unfold add
  split
  · exact ⟨rfl, rfl⟩
  · split
    · split <;> exact ⟨rfl, rfl⟩
    · refine ⟨?_, rfl⟩
      simp only [append, List.map_map]
      exact List.map_congr_left fun c _ => take_in_unshown card c

theorem found_same_cards : SameCards (d.settled (d.addCategory spec)) d := by
  unfold addCategory
  split <;> exact ⟨rfl, rfl⟩

theorem shelf_names (same : SameShelf d e) (name : String) : d.containsCategory name = e.containsCategory name := by
  have names : d.categories.map Category.name = e.categories.map Category.name := by
    have named := congrArg (List.map Category.name) same.1
    rwa [List.map_map, List.map_map] at named
  have found := congrArg (fun names => names.any fun other => decide (other = name)) names
  rwa [List.any_map, List.any_map] at found

theorem found_same_shelf (same : SameShelf d e) :
    (d.addCategory spec).map Prod.snd = (e.addCategory spec).map Prod.snd ∧
      SameShelf (d.settled (d.addCategory spec)) (e.settled (e.addCategory spec)) := by
  have name := shelf_names same spec.name
  obtain ⟨categories, next⟩ := same
  by_cases held : e.containsCategory spec.name
  · rw [addCategory, addCategory, if_pos held, if_pos (name.trans held)]
    exact ⟨rfl, categories, next⟩
  · rw [addCategory, addCategory, if_neg held, if_neg (name ▸ held)]
    refine ⟨by rw [next]; rfl, ?_, ?_⟩
    · simp [settled, putCategory, categories, next, Category.unshown]
    · simp [settled, putCategory, next]

end Apart

theorem grow_cards {cards : List (Card × UInt32)} {specs : List CategorySpec} {steps : List Growth}
    (order : Interleaving cards specs steps) {d e : Deck} (same : SameCards d e) :
    (d.grow steps).added = (e.grow (cards.map fun c => .card c.1 c.2)).added ∧
      SameCards (d.grow steps).deck (e.grow (cards.map fun c => .card c.1 c.2)).deck := by
  induction order generalizing d e with
  | done => exact ⟨rfl, same⟩
  | card card n rest ih =>
    obtain ⟨told, next⟩ := add_same_cards card n same
    obtain ⟨later, last⟩ := ih next
    refine ⟨?_, last⟩
    simp only [List.map_cons, grow, told, later]
  | category spec rest ih =>
    have kept := found_same_cards (d := d) spec
    exact ih ⟨kept.1.trans same.1, kept.2.trans same.2⟩

theorem grow_shelf {cards : List (Card × UInt32)} {specs : List CategorySpec} {steps : List Growth}
    (order : Interleaving cards specs steps) {d e : Deck} (same : SameShelf d e) :
    (d.grow steps).founded = (e.grow (specs.map .category)).founded ∧
      SameShelf (d.grow steps).deck (e.grow (specs.map .category)).deck := by
  induction order generalizing d e with
  | done => exact ⟨rfl, same⟩
  | card card n rest ih =>
    have kept := add_same_shelf (d := d) card n
    exact ih ⟨kept.1.trans same.1, kept.2.trans same.2⟩
  | category spec rest ih =>
    obtain ⟨told, next⟩ := found_same_shelf spec same
    obtain ⟨later, last⟩ := ih next
    refine ⟨?_, last⟩
    simp only [List.map_cons, grow, told, later]

theorem grow_reached {cards : List (Card × UInt32)} {specs : List CategorySpec} {steps : List Growth}
    (order : Interleaving cards specs steps) {n : Nat} {d : Deck} (reached : Reached n d) :
    ∃ m ≤ n + specs.length, Reached m (d.grow steps).deck := by
  induction order generalizing n d with
  | done => exact ⟨n, Nat.le_refl n, reached⟩
  | card card k rest ih => exact ih (.change (.add card k) reached)
  | category spec rest ih =>
    obtain ⟨m, few, last⟩ := ih (.change (.addCategory spec) reached)
    have one : d.founded (.addCategory spec) ≤ 1 := by
      dsimp only [founded]
      split <;> omega
    exact ⟨m, by rw [List.length_cons]; omega, last⟩

theorem categories_of_cards {d e : Deck} (left : Viewed d) (right : Viewed e) (cards : SameCards d e)
    (shelf : SameShelf d e) : d.categories = e.categories := by
  have shown {f : Deck} (viewed : Viewed f) :
      (f.categories.map Category.unshown).map
        (fun c => { c with members := (f.cards.filter c.includes).map Card.id }) = f.categories := by
    rw [List.map_map]
    refine (List.map_congr_left fun c member => ?_).trans (List.map_id _)
    have members := viewed.members c member
    simp only [Function.comp_apply, Category.unshown]
    rw [show ({ c with members := [] } : Category).includes = c.includes from rfl, ← members]
    rfl
  have listed : d.cards = e.cards := congrArg (List.map Entry.card) cards.1
  rw [← shown left, ← shown right, shelf.1, listed]

theorem memberships_of_cards {d e : Deck} {m n : Nat} (left : Numbered m d) (right : Numbered n e)
    (cards : SameCards d e) (categories : d.categories = e.categories) : d.memberships = e.memberships := by
  apply OrderedMap.ext_get
  intro id
  have listed : d.cards = e.cards := congrArg (List.map Entry.card) cards.1
  rw [left.rows, right.rows, listed, categories]

theorem same_but_for_rows {d e : Deck} (cards : SameCards d e) (categories : d.categories = e.categories)
    (next : d.nextCategory = e.nextCategory) : d = { e with memberships := d.memberships } := by
  obtain ⟨_, _, _, _, _⟩ := d
  obtain ⟨rfl, rfl⟩ := cards
  dsimp only at categories next
  rw [categories, next]

section Orders

variable {n : Nat} {d : Deck} {cards : List (Card × UInt32)} {specs : List CategorySpec} {one other : List Growth}

theorem grown_but_for_rows (reached : Reached n d) (left : Interleaving cards specs one)
    (right : Interleaving cards specs other) :
    ∃ rows, d.grow one = { d.grow other with deck := { (d.grow other).deck with memberships := rows } } := by
  obtain ⟨addedOne, cardsOne⟩ := grow_cards left ⟨rfl, rfl⟩ (e := d)
  obtain ⟨addedOther, cardsOther⟩ := grow_cards right ⟨rfl, rfl⟩ (e := d)
  obtain ⟨foundedOne, shelfOne⟩ := grow_shelf left ⟨rfl, rfl⟩ (e := d)
  obtain ⟨foundedOther, shelfOther⟩ := grow_shelf right ⟨rfl, rfl⟩ (e := d)
  obtain ⟨_, _, reachedOne⟩ := grow_reached left reached
  obtain ⟨_, _, reachedOther⟩ := grow_reached right reached
  have sameCards : SameCards (d.grow one).deck (d.grow other).deck :=
    ⟨cardsOne.1.trans cardsOther.1.symm, cardsOne.2.trans cardsOther.2.symm⟩
  have sameShelf : SameShelf (d.grow one).deck (d.grow other).deck :=
    ⟨shelfOne.1.trans shelfOther.1.symm, shelfOne.2.trans shelfOther.2.symm⟩
  have categories := categories_of_cards (reached_viewed reachedOne) (reached_viewed reachedOther) sameCards sameShelf
  have added := addedOne.trans addedOther.symm
  have founded := foundedOne.trans foundedOther.symm
  refine ⟨(d.grow one).deck.memberships, ?_⟩
  rw [← same_but_for_rows sameCards categories sameShelf.2]
  dsimp only
  rw [← added, ← founded]

theorem grown_alike (reached : Reached n d) (few : n + specs.length ≤ UInt32.size)
    (left : Interleaving cards specs one) (right : Interleaving cards specs other) : d.grow one = d.grow other := by
  obtain ⟨_, fewOne, reachedOne⟩ := grow_reached left reached
  obtain ⟨_, fewOther, reachedOther⟩ := grow_reached right reached
  obtain ⟨rows, same⟩ := grown_but_for_rows reached left right
  have sameDeck := congrArg Grown.deck same
  have held : (d.grow one).deck.memberships = (d.grow other).deck.memberships := by
    refine memberships_of_cards (reached_numbered reachedOne (Nat.le_trans fewOne few))
      (reached_numbered reachedOther (Nat.le_trans fewOther few)) ?_ ?_
    · rw [sameDeck]
      exact ⟨rfl, rfl⟩
    · rw [sameDeck]
  rw [sameDeck] at held
  rw [same, show rows = (d.grow other).deck.memberships from held]

end Orders

def newcomer : Card := Card.ofFaces "bull" ⟨"", "", "", ""⟩ .common [Face.ofName "Bull"]

-- The new category takes its number out of the rows of the cards that are there before it.
theorem spent_herd_heeds_order :
    spentHerd.grow [.card newcomer 1, .category namesake] ≠ spentHerd.grow [.category namesake, .card newcomer 1] := by
  apply ne_of_apply_ne fun grown => (grown.deck.categoriesOf "bull").length
  exact Nat.zero_ne_one

/-- In whatever order cards and categories come, each addition tells the same and the deck at the end is the same
    but for its rows of categories. These too are the same in all decks of at most so many categories ever made
    if and only if there are as many numbers for them. -/
theorem growth_in_any_order (most : Nat) :
    (∀ n d cards specs one other, Reached n d → Interleaving cards specs one → Interleaving cards specs other →
      ∃ rows, d.grow one = { d.grow other with deck := { (d.grow other).deck with memberships := rows } }) ∧
      ((∀ n d cards specs one other, Reached n d → n + specs.length ≤ most → Interleaving cards specs one →
        Interleaving cards specs other → d.grow one = d.grow other) ↔ most ≤ UInt32.size) := by
  refine ⟨fun _ _ _ _ _ _ => grown_but_for_rows, ?_, ?_⟩
  · intro alike
    apply Nat.le_of_not_lt
    intro more
    exact spent_herd_heeds_order (alike _ _ _ [namesake] _ _ spent_herd_reached more
      (.card _ 1 (.category namesake .done)) (.category namesake (.card _ 1 .done)))
  · intro enough _ _ _ _ _ _ reached few left right
    exact grown_alike reached (Nat.le_trans few enough) left right

theorem bears_in_any_order :
    let bear := Card.ofFaces "bear" ⟨"", "", "", ""⟩ .common [Face.ofName "Bear"]
    let forced : CategorySpec := ⟨"Bears", .nothing, ["bear"], [], .black⟩
    let again : CategorySpec := ⟨"Bears", .everything, [], [], .black⟩
    empty.grow [.card bear greatest, .category forced, .card bear 1, .category again] =
      empty.grow [.category forced, .category again, .card bear greatest, .card bear 1] := by
  intro bear forced again
  have left : Interleaving [(bear, greatest), (bear, 1)] [forced, again]
      [.card bear greatest, .category forced, .card bear 1, .category again] :=
    .card _ _ (.category _ (.card _ _ (.category _ .done)))
  have right : Interleaving [(bear, greatest), (bear, 1)] [forced, again]
      [.category forced, .category again, .card bear greatest, .card bear 1] :=
    .category _ (.category _ (.card _ _ (.card _ _ .done)))
  exact (growth_in_any_order 2).2.2 (by decide) 0 empty _ [forced, again] _ _ .start (Nat.le_refl 2) left right

theorem shared_number_heeds_order :
    ∃ one other, Reached UInt32.size spentHerd ∧ Interleaving [(newcomer, 1)] [namesake] one ∧
      Interleaving [(newcomer, 1)] [namesake] other ∧ spentHerd.grow one ≠ spentHerd.grow other :=
  ⟨_, _, spent_herd_reached, .card _ 1 (.category namesake .done), .category namesake (.card _ 1 .done),
    spent_herd_heeds_order⟩

end Deck

end Deckwright
