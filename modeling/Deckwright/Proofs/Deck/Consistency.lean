import Deckwright.Proofs.Deck.Moves
set_option autoImplicit false

/- The three agreements are shown apart, since a move touches few of them at a time; only the last depends
   on the numbers of the categories. -/
namespace Deckwright.Deck

structure Listed (d : Deck) : Prop where
  counted : ∀ e ∈ d.entries, e.count ≠ 0
  distinct : (d.cards.map Card.id).Nodup
  placed : ∀ id, d.position? id = d.cards.findIdx? fun card => card.id = id

structure Viewed (d : Deck) : Prop where
  members : ∀ c ∈ d.categories, c.members = (d.cards.filter c.includes).map Card.id
  apart : ∀ c ∈ d.categories, c.Apart
  named : (d.categories.map Category.name).Nodup

def homes (cs : List Category) (card : Card) : OrderedSet CategoryId :=
  .ofList ((cs.filter fun c => c.includes card).map Category.id)

structure Numbered (n : Nat) (d : Deck) : Prop where
  next : d.nextCategory = UInt32.ofNat n
  ascending : (d.categories.map Category.id).Pairwise (· < ·)
  below : ∀ c ∈ d.categories, c.id.toNat < n
  rows : ∀ id, d.memberships.get? id = (d.cards.find? fun card => card.id = id).map (homes d.categories)

theorem mem_homes {cs : List Category} {card : Card} {k : CategoryId} :
    k ∈ (homes cs card).toList ↔ ∃ c ∈ cs, c.includes card = true ∧ c.id = k := by
  simp [homes, OrderedSet.mem_ofList, and_assoc]

theorem members_of_cards (c : Category) (entries : List Entry) :
    membersOf c entries = ((entries.map Entry.card).filter c.includes).map Card.id := by
  simp [membersOf, List.filter_map, Function.comp_def, Entry.id]

theorem entry_ids (d : Deck) : d.entries.map Entry.id = d.cards.map Card.id := by
  rw [cards, List.map_map]
  rfl

theorem cards_recount (d : Deck) (i : Nat) (n : UInt32) : (d.setCountOf i n).cards = d.cards := by
  apply List.ext_getElem?
  intro j
  simp only [cards, setCountOf, List.getElem?_map, List.getElem?_modify]
  split <;> cases d.entries[j]? <;> rfl

theorem cards_append (d : Deck) (card : Card) (n : UInt32) : (d.append card n).cards = d.cards ++ [card] := by
  simp [append, cards]

theorem absent_ids {d : Deck} {id : CardId} (listed : Listed d) (absent : d.position? id = none) :
    ∀ card ∈ d.cards, card.id ≠ id := by
  rw [listed.placed] at absent
  simpa using absent

theorem find_entry_place (es : List Entry) (x : CardId) :
    (es.map Entry.card).findIdx? (fun card => card.id = x) = es.findIdx? fun e => e.id = x := by
  rw [List.findIdx?_map]
  rfl

theorem position_split {d : Deck} {id : CardId} {i : Nat} (listed : Listed d) (present : d.position? id = some i) :
    ∃ front e back, d.entries = front ++ e :: back ∧ front.length = i ∧ e.id = id ∧
      ∀ other ∈ front ++ back, other.id ≠ id := by
  have found := present
  rw [listed.placed, cards, List.findIdx?_map, List.findIdx?_eq_some_iff_getElem] at found
  obtain ⟨within, hit, _⟩ := found
  have split : d.entries = d.entries.take i ++ d.entries[i] :: d.entries.drop (i + 1) := by
    rw [List.getElem_cons_drop, List.take_append_drop]
  have same : d.entries[i].id = id := by simpa [Entry.id] using hit
  refine ⟨d.entries.take i, d.entries[i], d.entries.drop (i + 1), split, by simp; omega, same, ?_⟩
  have distinct : (d.entries.map Entry.id).Nodup := by
    rw [entry_ids]
    exact listed.distinct
  rw [split, List.map_append, List.map_cons, List.nodup_append] at distinct
  obtain ⟨_, behind, across⟩ := distinct
  intro other member equal
  rcases List.mem_append.1 member with before | later
  · exact across other.id (List.mem_map_of_mem before) d.entries[i].id (by simp) (equal.trans same.symm)
  · exact (List.nodup_cons.1 behind).1 (by rw [same, ← equal]; exact List.mem_map_of_mem later)

theorem drop_at_split {d : Deck} {front back : List Entry} {e : Entry} (id : CardId)
    (held : d.entries = front ++ e :: back) :
    d.dropAt front.length id =
      { d with
        entries := front ++ back
        positions := placesFrom (d.positions.erase id) front.length back
        memberships := d.memberships.erase id
        categories := d.categories.map fun c => c.forget id } := by
  simp [dropAt, held, List.eraseIdx_append_of_length_le]

theorem recount_at_split {d : Deck} {front back : List Entry} {e : Entry} (held : d.entries = front ++ e :: back)
    (n : UInt32) :
    d.setCountOf front.length n = { d with entries := front ++ { e with count := n } :: back } := by
  simp [setCountOf, held, List.modify_eq_take_drop]

theorem cards_drop {d : Deck} {id : CardId} {i : Nat} (listed : Listed d) (present : d.position? id = some i) :
    (d.dropAt i id).cards = d.cards.filter fun card => card.id ≠ id := by
  obtain ⟨front, e, back, held, rfl, same, others⟩ := position_split listed present
  rw [drop_at_split id held]
  have kept (part : List Entry) (away : ∀ other ∈ part, other.id ≠ id) :
      (part.map Entry.card).filter (fun card => card.id ≠ id) = part.map Entry.card := by
    apply List.filter_eq_self.mpr
    intro card member
    obtain ⟨other, inside, rfl⟩ := List.mem_map.1 member
    exact decide_eq_true (away other inside)
  have gone : ¬ e.card.id ≠ id := fun away => away same
  simp only [cards, held, List.map_append, List.map_cons, List.filter_append, List.filter_cons]
  rw [kept front fun other member => others other (by simp [member]),
    kept back fun other member => others other (by simp [member]), if_neg (by simpa using gone)]

theorem get_places_from (m : OrderedMap CardId Nat) (k : Nat) (es : List Entry) (x : CardId)
    (distinct : (es.map Entry.id).Nodup) :
    (placesFrom m k es).get? x = ((es.findIdx? fun e => e.id = x).map (· + k)).or (m.get? x) := by
  induction es generalizing m k with
  | nil => simp [placesFrom]
  | cons e rest ih =>
    obtain ⟨fresh, distinct⟩ := List.nodup_cons.1 distinct
    rw [placesFrom, ih _ _ distinct, OrderedMap.get_insert, List.findIdx?_cons]
    by_cases here : e.id = x
    · subst here
      have later : rest.findIdx? (fun other => other.id = e.id) = none := by
        rw [List.findIdx?_eq_none_iff]
        intro other member
        exact decide_eq_false fun same => fresh (same ▸ List.mem_map_of_mem member)
      simp [later]
    · have behind : x ≠ e.id := fun same => here same.symm
      cases rest.findIdx? fun other => other.id = x with
      | none => simp [here, behind]
      | some j => simp [here]; omega

theorem listed_empty : Listed empty where
  counted := by simp [empty]
  distinct := by simp [empty, cards]
  placed := fun _ => rfl

theorem listed_recount {d : Deck} (listed : Listed d) (i : Nat) (n : UInt32) (positive : n ≠ 0) :
    Listed (d.setCountOf i n) where
  counted := by
    intro e member
    obtain ⟨j, access⟩ := List.mem_iff_getElem?.1 member
    simp only [setCountOf, List.getElem?_modify] at access
    cases old : d.entries[j]? with
    | none => simp [old] at access
    | some prior =>
      by_cases hit : i = j
      · simp only [old, if_pos hit, Option.map_eq_map, Option.map_some, Option.some.injEq] at access
        subst access
        exact positive
      · simp only [old, if_neg hit, Option.map_eq_map, Option.map_some, Option.some.injEq] at access
        subst access
        exact listed.counted _ (List.mem_of_getElem? old)
  distinct := by rw [cards_recount]; exact listed.distinct
  placed := by rw [cards_recount]; exact listed.placed

theorem listed_enter {d : Deck} (listed : Listed d) (card : Card) (n : UInt32) (positive : n ≠ 0)
    (absent : d.position? card.id = none) : Listed (d.append card n) where
  counted := by
    intro e member
    rcases List.mem_append.1 member with old | new
    · exact listed.counted e old
    · obtain rfl := List.mem_singleton.1 new
      exact positive
  distinct := by
    have fresh := absent_ids listed absent
    rw [cards_append, List.map_append, List.nodup_append]
    refine ⟨listed.distinct, by simp, ?_⟩
    intro a old b new equal
    obtain ⟨other, member, rfl⟩ := List.mem_map.1 old
    simp only [List.map_cons, List.map_nil, List.mem_singleton] at new
    exact fresh other member (equal.trans new)
  placed := by
    intro id
    rw [cards_append, List.findIdx?_append, ← listed.placed]
    by_cases same : id = card.id
    · subst same
      simp [append, position?, OrderedMap.get_insert, List.findIdx?_cons, cards, show d.positions.get? card.id = none from absent]
    · simp [append, position?, OrderedMap.get_insert, List.findIdx?_cons, same, Ne.symm same]

theorem listed_leave {d : Deck} (listed : Listed d) (i : Nat) (id : CardId) (present : d.position? id = some i) :
    Listed (d.dropAt i id) where
  counted := by
    obtain ⟨front, e, back, held, rfl, _, _⟩ := position_split listed present
    rw [drop_at_split id held]
    intro other member
    apply listed.counted other
    rw [held]
    rcases List.mem_append.1 member with before | behind
    · simp [before]
    · simp [behind]
  distinct := by
    rw [cards_drop listed present]
    exact listed.distinct.sublist (List.filter_sublist.map Card.id)
  placed := by
    intro x
    obtain ⟨front, e, back, held, rfl, same, others⟩ := position_split listed present
    have places := listed.placed x
    have distinct := listed.distinct
    rw [← entry_ids, held, List.map_append, List.map_cons] at distinct
    rw [cards, find_entry_place, held, List.findIdx?_append, List.findIdx?_cons] at places
    obtain ⟨_, behind, across⟩ := List.nodup_append.1 distinct
    rw [drop_at_split id held, cards, find_entry_place, List.findIdx?_append, position?,
      get_places_from _ _ _ _ (List.nodup_cons.1 behind).2, OrderedMap.get_erase]
    have missing (part : List Entry) (away : ∀ other ∈ part, other.id ≠ x) :
        part.findIdx? (fun other => other.id = x) = none := by
      simpa using away
    by_cases hit : x = id
    · subst hit
      rw [missing front fun other member => others other (by simp [member]),
        missing back fun other member => others other (by simp [member])]
      simp
    · have passed : ¬ e.id = x := fun equal => hit (equal.symm.trans same)
      cases later : back.findIdx? fun other => other.id = x with
      | none =>
        rw [if_neg hit, ← position?, places]
        simp [later, passed]
      | some j =>
        obtain ⟨within, found, _⟩ := List.findIdx?_eq_some_iff_getElem.1 later
        have early : front.findIdx? (fun other => other.id = x) = none := by
          apply missing
          intro other member equal
          refine across other.id (List.mem_map_of_mem member) back[j].id ?_ ?_
          · exact List.mem_cons_of_mem _ (List.mem_map_of_mem (List.getElem_mem within))
          · exact equal.trans (of_decide_eq_true found).symm
        simp [early]

theorem listed_move {d e : Deck} {n : Nat} (listed : Listed d) (move : Move d n e) : Listed e := by
  cases move with
  | recount i n positive => exact listed_recount listed i n positive
  | enter card n positive absent => exact listed_enter listed card n positive absent
  | leave i id present => exact listed_leave listed i id present
  | clear => exact ⟨listed_empty.counted, listed_empty.distinct, listed_empty.placed⟩
  | found => exact ⟨listed.counted, listed.distinct, listed.placed⟩
  | close => exact ⟨listed.counted, listed.distinct, listed.placed⟩
  | alter => exact ⟨listed.counted, listed.distinct, listed.placed⟩
  | paint => exact ⟨listed.counted, listed.distinct, listed.placed⟩

theorem take_in_shape (card : Card) (c : Category) :
    (takeIn card c).id = c.id ∧ (takeIn card c).name = c.name ∧ (takeIn card c).includes = c.includes ∧
      (c.Apart → (takeIn card c).Apart) := by
  unfold takeIn
  split <;> exact ⟨rfl, rfl, rfl, id⟩

theorem forget_includes (c : Category) (id : CardId) (card : Card) (other : card.id ≠ id) :
    (c.forget id).includes card = c.includes card := by
  have same (s : OrderedSet CardId) : (s.erase id).contains card.id = s.contains card.id := by
    rw [Bool.eq_iff_iff, OrderedSet.contains_iff, OrderedSet.contains_iff, OrderedSet.mem_erase]
    simp [other]
  simp [Category.includes, Category.forget, same]

theorem forget_apart (c : Category) (id : CardId) (apart : c.Apart) : (c.forget id).Apart := by
  intro card white black
  exact apart card (OrderedSet.mem_erase.1 white).1 (OrderedSet.mem_erase.1 black).1

theorem nodup_replace {α : Type} {front back : List α} {a b : α} (distinct : (front ++ a :: back).Nodup)
    (fresh : b = a ∨ b ∉ front ++ a :: back) : (front ++ b :: back).Nodup := by
  rcases fresh with same | fresh
  · exact same ▸ distinct
  · have rest : (front ++ back).Nodup := distinct.sublist (by simp)
    rw [List.perm_middle.nodup_iff, List.nodup_cons]
    refine ⟨fun member => fresh ?_, rest⟩
    rcases List.mem_append.1 member with before | behind
    · simp [before]
    · simp [behind]

theorem viewed_empty : Viewed empty where
  members := by simp [empty]
  apart := by simp [empty]
  named := by simp [empty]

theorem viewed_enter {d : Deck} (viewed : Viewed d) (card : Card) (n : UInt32) : Viewed (d.append card n) where
  members := by
    intro new member
    obtain ⟨c, old, rfl⟩ := List.mem_map.1 member
    rw [(take_in_shape card c).2.2.1, cards_append, List.filter_append, List.map_append, ← viewed.members c old]
    unfold takeIn
    by_cases here : c.includes card <;> simp [here]
  apart := by
    intro new member
    obtain ⟨c, old, rfl⟩ := List.mem_map.1 member
    exact (take_in_shape card c).2.2.2 (viewed.apart c old)
  named := by
    have names : (d.categories.map (takeIn card)).map Category.name = d.categories.map Category.name := by
      rw [List.map_map]
      exact List.map_congr_left fun c _ => (take_in_shape card c).2.1
    simp only [append, names]
    exact viewed.named

theorem viewed_leave {d : Deck} (listed : Listed d) (viewed : Viewed d) (i : Nat) (id : CardId)
    (present : d.position? id = some i) : Viewed (d.dropAt i id) where
  members := by
    intro new member
    obtain ⟨c, old, rfl⟩ := List.mem_map.1 member
    have distinct : c.members.Nodup := by
      rw [viewed.members c old]
      exact listed.distinct.sublist (List.filter_sublist.map Card.id)
    have others : (d.cards.filter fun card => card.id ≠ id).filter (c.forget id).includes =
        (d.cards.filter c.includes).filter fun card => card.id ≠ id := by
      rw [List.filter_filter, List.filter_filter]
      apply List.filter_congr
      intro card _
      by_cases away : card.id ≠ id
      · rw [forget_includes c id card away, Bool.and_comm]
      · simp [away]
    rw [cards_drop listed present, others]
    have members : (c.forget id).members = c.members.erase id := rfl
    rw [members, distinct.erase_eq_filter, viewed.members c old, List.filter_map]
    congr 1
    apply List.filter_congr
    intro card _
    rw [Bool.eq_iff_iff]
    simp
  apart := by
    intro new member
    obtain ⟨c, old, rfl⟩ := List.mem_map.1 member
    exact forget_apart c id (viewed.apart c old)
  named := by
    have names : (d.categories.map fun c => c.forget id).map Category.name = d.categories.map Category.name := by
      rw [List.map_map]
      rfl
    simp only [dropAt, names]
    exact viewed.named

theorem viewed_changed {d : Deck} {front back : List Category} {new : Category} (viewed : Viewed d)
    (others : ∀ c ∈ front ++ back, c ∈ d.categories) (apart : new.Apart)
    (named : ((front ++ new :: back).map Category.name).Nodup) : Viewed (d.changed front back new) where
  members := by
    intro c member
    rcases List.mem_append.1 member with before | behind
    · exact viewed.members c (others c (by simp [before]))
    · rcases List.mem_cons.1 behind with rfl | behind
      · exact members_of_cards new d.entries
      · exact viewed.members c (others c (by simp [behind]))
  apart := by
    intro c member
    rcases List.mem_append.1 member with before | behind
    · exact viewed.apart c (others c (by simp [before]))
    · rcases List.mem_cons.1 behind with rfl | behind
      · exact apart
      · exact viewed.apart c (others c (by simp [behind]))
  named := by simpa [changed] using named

theorem mem_split_others {d : Deck} {front back : List Category} {c : Category}
    (held : d.categories = front ++ c :: back) : ∀ other ∈ front ++ back, other ∈ d.categories := by
  intro other member
  rw [held]
  rcases List.mem_append.1 member with before | behind
  · simp [before]
  · simp [behind]

theorem viewed_found {d : Deck} {c : Category} (viewed : Viewed d) (fresh : d.containsCategory c.name = false)
    (apart : c.Apart) : Viewed { d.changed d.categories [] c with nextCategory := d.nextCategory + 1 } := by
  have away := contains_category_false.1 fresh
  have named : ((d.categories ++ [c]).map Category.name).Nodup := by
    rw [List.map_append, List.nodup_append]
    refine ⟨viewed.named, by simp, ?_⟩
    intro a old b new equal
    obtain ⟨other, member, rfl⟩ := List.mem_map.1 old
    simp only [List.map_cons, List.map_nil, List.mem_singleton] at new
    exact away other member (equal.trans new)
  have seen : Viewed (d.changed d.categories [] c) := viewed_changed viewed (by simp) apart named
  exact ⟨seen.members, seen.apart, seen.named⟩

theorem viewed_close {d : Deck} {front back : List Category} {c : Category} (viewed : Viewed d)
    (held : d.categories = front ++ c :: back) (rows : OrderedMap CardId (OrderedSet CategoryId)) :
    Viewed { d with categories := front ++ back, memberships := rows } := by
  have kept := mem_split_others held
  refine ⟨fun other member => viewed.members other (kept other member),
    fun other member => viewed.apart other (kept other member), ?_⟩
  have named := viewed.named
  rw [held] at named
  exact named.sublist (List.Sublist.map Category.name (by simp))

theorem viewed_alter {d : Deck} {front back : List Category} {c new : Category} (viewed : Viewed d)
    (held : d.categories = front ++ c :: back) (apart : c.Apart → new.Apart)
    (name : new.name = c.name ∨ d.containsCategory new.name = false) : Viewed (d.changed front back new) := by
  have named := viewed.named
  refine viewed_changed viewed (mem_split_others held) (apart (viewed.apart c (by simp [held]))) ?_
  rw [held, List.map_append, List.map_cons] at named
  rw [List.map_append, List.map_cons]
  refine nodup_replace named (name.imp id fun free member => ?_)
  rw [← List.map_cons, ← List.map_append, ← held] at member
  obtain ⟨other, inside, same⟩ := List.mem_map.1 member
  exact contains_category_false.1 free other inside same

theorem viewed_paint {d : Deck} {front back : List Category} {c : Category} (viewed : Viewed d)
    (held : d.categories = front ++ c :: back) (swatch : Swatch) :
    Viewed { d with categories := front ++ { c with swatch := swatch } :: back } := by
  have old : ∀ new ∈ front ++ { c with swatch := swatch } :: back, ∃ c ∈ d.categories,
      new.members = c.members ∧ new.includes = c.includes ∧ (c.Apart → new.Apart) := by
    intro new member
    rw [held]
    rcases List.mem_append.1 member with before | behind
    · exact ⟨new, by simp [before], rfl, rfl, id⟩
    · rcases List.mem_cons.1 behind with rfl | behind
      · exact ⟨c, by simp, rfl, rfl, id⟩
      · exact ⟨new, by simp [behind], rfl, rfl, id⟩
  refine ⟨?_, ?_, ?_⟩
  · intro new member
    obtain ⟨c, inside, members, includes, _⟩ := old new member
    rw [members, includes]
    exact viewed.members c inside
  · intro new member
    obtain ⟨c, inside, _, _, apart⟩ := old new member
    exact apart (viewed.apart c inside)
  · have named := viewed.named
    rw [held] at named
    simpa using named

theorem viewed_move {d e : Deck} {n : Nat} (listed : Listed d) (viewed : Viewed d) (move : Move d n e) :
    Viewed e := by
  cases move with
  | recount i n positive =>
    refine ⟨?_, viewed.apart, viewed.named⟩
    rw [cards_recount]
    exact viewed.members
  | enter card n positive absent => exact viewed_enter viewed card n
  | leave i id present => exact viewed_leave listed viewed i id present
  | clear => exact ⟨viewed_empty.members, viewed_empty.apart, viewed_empty.named⟩
  | found c fresh numbered apart => exact viewed_found viewed fresh apart
  | close front back c held => exact viewed_close viewed held _
  | alter front back c new held sameId apart name => exact viewed_alter viewed held apart name
  | paint front back c swatch held => exact viewed_paint viewed held swatch

theorem homes_congr {f : Category → Category} {cs : List Category} {card : Card}
    (sameId : ∀ c ∈ cs, (f c).id = c.id) (sameIncludes : ∀ c ∈ cs, (f c).includes card = c.includes card) :
    homes (cs.map f) card = homes cs card := by
  apply OrderedSet.ext_mem
  intro k
  rw [mem_homes, mem_homes]
  constructor
  · rintro ⟨new, member, inside, number⟩
    obtain ⟨c, old, rfl⟩ := List.mem_map.1 member
    exact ⟨c, old, (sameIncludes c old).symm.trans inside, (sameId c old).symm.trans number⟩
  · rintro ⟨c, old, inside, number⟩
    exact ⟨f c, List.mem_map_of_mem old, (sameIncludes c old).trans inside, (sameId c old).trans number⟩

theorem mem_homes_middle {front back : List Category} {c : Category} {card : Card} {k : CategoryId} :
    k ∈ (homes (front ++ c :: back) card).toList ↔
      (c.includes card = true ∧ c.id = k) ∨ k ∈ (homes (front ++ back) card).toList := by
  simp only [mem_homes, List.mem_append, List.mem_cons]
  constructor
  · rintro ⟨other, before | rfl | behind, rest⟩
    · exact .inr ⟨other, .inl before, rest⟩
    · exact .inl rest
    · exact .inr ⟨other, .inr behind, rest⟩
  · rintro (here | ⟨other, before | behind, rest⟩)
    · exact ⟨c, .inr (.inl rfl), here⟩
    · exact ⟨other, .inl before, rest⟩
    · exact ⟨other, .inr (.inr behind), rest⟩

theorem not_home {cs : List Category} {card : Card} {k : CategoryId} (others : ∀ other ∈ cs, other.id ≠ k) :
    k ∉ (homes cs card).toList := by
  intro member
  obtain ⟨other, inside, _, number⟩ := mem_homes.1 member
  exact others other inside number

theorem homes_noted {front back : List Category} {c : Category} {card : Card} {row : OrderedSet CategoryId}
    (others : ∀ other ∈ front ++ back, other.id ≠ c.id)
    (right : ∀ k, k ≠ c.id → (k ∈ row.toList ↔ k ∈ (homes (front ++ back) card).toList)) :
    homes (front ++ c :: back) card = if c.includes card then row.insert c.id else row.erase c.id := by
  apply OrderedSet.ext_mem
  intro k
  rw [mem_homes_middle]
  by_cases number : k = c.id
  · subst number
    by_cases inside : c.includes card <;>
      simp [inside, not_home others, OrderedSet.mem_insert, OrderedSet.mem_erase]
  · by_cases inside : c.includes card <;>
      simp [inside, number, Ne.symm number, OrderedSet.mem_insert, OrderedSet.mem_erase, right k number]

theorem homes_closed {front back : List Category} {c : Category} {card : Card}
    (others : ∀ other ∈ front ++ back, other.id ≠ c.id) :
    homes (front ++ back) card = (homes (front ++ c :: back) card).erase c.id := by
  apply OrderedSet.ext_mem
  intro k
  rw [OrderedSet.mem_erase, mem_homes_middle]
  by_cases number : k = c.id
  · subst number
    simp [not_home others]
  · simp [number, Ne.symm number]

theorem get_noted (c : Category) (es : List Entry) (rows : OrderedMap CardId (OrderedSet CategoryId)) (x : CardId)
    (distinct : (es.map Entry.id).Nodup) :
    (es.foldl (noteIn c) rows).get? x =
      match (es.map Entry.card).find? fun card => card.id = x with
      | some card => (rows.get? x).map fun row => if c.includes card then row.insert c.id else row.erase c.id
      | none => rows.get? x := by
  induction es generalizing rows with
  | nil => rfl
  | cons e rest ih =>
    obtain ⟨fresh, distinct⟩ := List.nodup_cons.1 distinct
    rw [List.foldl_cons, ih _ distinct, List.map_cons, List.find?_cons]
    have here (y : CardId) : (noteIn c rows e).get? y =
        if y = e.id then (rows.get? y).map fun row => if c.includes e.card then row.insert c.id else row.erase c.id
        else rows.get? y := by
      unfold noteIn
      cases old : rows.get? e.id with
      | none => by_cases same : y = e.id <;> simp [same, old]
      | some row => by_cases same : y = e.id <;> simp [same, old, OrderedMap.get_insert]
    by_cases hit : e.id = x
    · subst hit
      have later : (rest.map Entry.card).find? (fun card => card.id = e.id) = none := by
        rw [List.find?_eq_none]
        intro card member
        obtain ⟨other, inside, rfl⟩ := List.mem_map.1 member
        intro same
        exact fresh ((of_decide_eq_true same) ▸ List.mem_map_of_mem inside)
      rw [later, here]
      simp [Entry.id]
    · have passed : ¬ e.card.id = x := hit
      rw [here, if_neg (Ne.symm hit)]
      simp [passed]

theorem ids_apart {front back : List Category} {c : Category}
    (ascending : ((front ++ c :: back).map Category.id).Pairwise (· < ·)) :
    ∀ other ∈ front ++ back, other.id ≠ c.id := by
  rw [List.map_append, List.map_cons, List.pairwise_append] at ascending
  obtain ⟨_, behind, across⟩ := ascending
  intro other member equal
  rcases List.mem_append.1 member with before | later
  · have less := across other.id (List.mem_map_of_mem before) c.id (by simp)
    simp [equal] at less
  · have less := (List.pairwise_cons.1 behind).1 other.id (List.mem_map_of_mem later)
    simp [equal] at less

theorem numbered_empty : Numbered 0 empty where
  next := rfl
  ascending := List.Pairwise.nil
  below := by simp [empty]
  rows := fun _ => rfl

theorem below_of_numbers {d : Deck} {m : Nat} {cs : List Category} (numbered : Numbered m d)
    (numbers : cs.map Category.id = d.categories.map Category.id) : ∀ c ∈ cs, c.id.toNat < m := by
  intro c member
  have inside : c.id ∈ d.categories.map Category.id := by
    rw [← numbers]
    exact List.mem_map_of_mem member
  obtain ⟨old, held, same⟩ := List.mem_map.1 inside
  exact same ▸ numbered.below old held

theorem numbered_enter {d : Deck} {m : Nat} (listed : Listed d) (numbered : Numbered m d) (card : Card)
    (n : UInt32) (absent : d.position? card.id = none) : Numbered m (d.append card n) where
  next := numbered.next
  ascending := by
    have numbers : (d.categories.map (takeIn card)).map Category.id = d.categories.map Category.id := by
      rw [List.map_map]
      exact List.map_congr_left fun c _ => (take_in_shape card c).1
    simp only [append, numbers]
    exact numbered.ascending
  below := by
    intro new member
    obtain ⟨c, old, rfl⟩ := List.mem_map.1 member
    rw [(take_in_shape card c).1]
    exact numbered.below c old
  rows := by
    intro id
    have same : homes (d.categories.map (takeIn card)) = homes d.categories := by
      funext other
      exact homes_congr (fun c _ => (take_in_shape card c).1)
        (fun c _ => congrFun (take_in_shape card c).2.2.1 other)
    rw [cards_append, List.find?_append]
    simp only [append, same, OrderedMap.get_insert]
    by_cases here : id = card.id
    · subst here
      have none : d.cards.find? (fun other => other.id = card.id) = none := by
        simpa using absent_ids listed absent
      rw [none]
      simp [homes]
    · rw [if_neg here, numbered.rows]
      cases d.cards.find? fun other => other.id = id <;> simp [Ne.symm here]

theorem numbered_leave {d : Deck} {m : Nat} (listed : Listed d) (numbered : Numbered m d) (i : Nat) (id : CardId)
    (present : d.position? id = some i) : Numbered m (d.dropAt i id) where
  next := numbered.next
  ascending := by
    have numbers : (d.categories.map fun c => c.forget id).map Category.id = d.categories.map Category.id := by
      rw [List.map_map]
      rfl
    simp only [dropAt, numbers]
    exact numbered.ascending
  below := by
    intro new member
    obtain ⟨c, old, rfl⟩ := List.mem_map.1 member
    exact numbered.below c old
  rows := by
    intro x
    have rows : (d.dropAt i id).memberships = d.memberships.erase id := rfl
    have categories : (d.dropAt i id).categories = d.categories.map fun c => c.forget id := rfl
    rw [cards_drop listed present, rows, categories, OrderedMap.get_erase]
    by_cases gone : x = id
    · subst gone
      have none : (d.cards.filter fun card => card.id ≠ x).find? (fun card => card.id = x) = none := by
        rw [List.find?_eq_none]
        intro card member
        simpa using (List.mem_filter.1 member).2
      rw [none, if_pos rfl]
      rfl
    · have same : (d.cards.filter fun card => card.id ≠ id).find? (fun card => card.id = x) =
          d.cards.find? fun card => card.id = x := by
        rw [List.find?_filter]
        congr 1
        funext card
        by_cases hit : card.id = x <;> simp [hit, gone]
      rw [if_neg gone, numbered.rows, same]
      cases found : d.cards.find? fun card => card.id = x with
      | none => rfl
      | some card =>
        have named : card.id = x := by simpa using List.find?_some found
        have away : card.id ≠ id := fun equal => gone (named.symm.trans equal)
        have same : homes (d.categories.map fun c => c.forget id) card = homes d.categories card :=
          homes_congr (fun _ _ => rfl) fun c _ => forget_includes c id card away
        rw [Option.map_some, Option.map_some, same]

-- The category c stands between front and back in the end; before, the other numbers had
-- the same homes.
theorem rows_changed {d : Deck} {m : Nat} {front back : List Category} {c : Category} (listed : Listed d)
    (numbered : Numbered m d) (others : ∀ other ∈ front ++ back, other.id ≠ c.id)
    (right : ∀ card k, k ≠ c.id →
      (k ∈ (homes d.categories card).toList ↔ k ∈ (homes (front ++ back) card).toList)) (id : CardId) :
    (d.changed front back c).memberships.get? id =
      (d.cards.find? fun card => card.id = id).map (homes (d.changed front back c).categories) := by
  have distinct : (d.entries.map Entry.id).Nodup := by
    rw [entry_ids]
    exact listed.distinct
  simp only [changed]
  rw [get_noted c d.entries d.memberships id distinct, ← cards, numbered.rows]
  cases d.cards.find? fun card => card.id = id with
  | none => rfl
  | some card =>
    have noted := homes_noted (c := { c with members := membersOf c d.entries }) others (right card)
    simp only [Option.map_some, noted]
    rfl

theorem numbered_close {d : Deck} {m : Nat} {front back : List Category} {c : Category} (numbered : Numbered m d)
    (held : d.categories = front ++ c :: back) : Numbered m { d with
      categories := front ++ back
      memberships := d.memberships.mapValues fun _ row => row.erase c.id } where
  next := numbered.next
  ascending := by
    have ascending := numbered.ascending
    rw [held] at ascending
    exact ascending.sublist (List.Sublist.map Category.id (by simp))
  below := fun other member => numbered.below other (mem_split_others held other member)
  rows := by
    intro id
    have ascending := numbered.ascending
    rw [held] at ascending
    have closed : homes (front ++ back) = fun card => (homes d.categories card).erase c.id := by
      funext card
      rw [held]
      exact homes_closed (ids_apart ascending)
    have same : ({ d with
        categories := front ++ back
        memberships := d.memberships.mapValues fun _ row => row.erase c.id } : Deck).cards = d.cards := rfl
    rw [OrderedMap.get_map_values, numbered.rows, same, closed, Option.map_map]
    rfl

theorem numbered_found {d : Deck} {m : Nat} {c : Category} (listed : Listed d) (numbered : Numbered m d)
    (number : c.id = d.nextCategory) (few : m < UInt32.size) :
    Numbered (m + 1) { d.changed d.categories [] c with nextCategory := d.nextCategory + 1 } := by
  have last : c.id.toNat = m := by
    rw [number, numbered.next]
    exact Nat.mod_eq_of_lt few
  have less : ∀ other ∈ d.categories, other.id < c.id := by
    intro other member
    rw [UInt32.lt_iff_toNat_lt, last]
    exact numbered.below other member
  have others : ∀ other ∈ d.categories ++ [], other.id ≠ c.id := by
    intro other member
    exact UInt32.ne_of_lt (less other (by simpa using member))
  refine ⟨?_, ?_, ?_, ?_⟩
  · rw [UInt32.ofNat_add, ← numbered.next]
    rfl
  · simp only [changed, List.map_append, List.map_cons, List.map_nil, List.pairwise_append]
    refine ⟨numbered.ascending, by simp, ?_⟩
    intro a old b new
    obtain ⟨other, member, rfl⟩ := List.mem_map.1 old
    rw [List.mem_singleton.1 new]
    exact less other member
  · intro other member
    rcases List.mem_append.1 member with old | new
    · exact Nat.lt_succ_of_lt (numbered.below other old)
    · rw [List.mem_singleton.1 new]
      exact Nat.lt_succ_of_le (Nat.le_of_eq last)
  · exact rows_changed listed numbered others fun card k _ => by simp

theorem numbered_alter {d : Deck} {m : Nat} {front back : List Category} {c new : Category} (listed : Listed d)
    (numbered : Numbered m d) (held : d.categories = front ++ c :: back) (sameId : new.id = c.id) :
    Numbered m (d.changed front back new) := by
  have numbers : (d.changed front back new).categories.map Category.id = d.categories.map Category.id := by
    simp [changed, held, sameId]
  have ascending := numbered.ascending
  rw [← numbers] at ascending
  have others : ∀ other ∈ front ++ back, other.id ≠ new.id := by
    refine ids_apart ?_
    simpa [changed] using ascending
  have below := below_of_numbers numbered numbers
  refine ⟨numbered.next, ascending, below, ?_⟩
  refine rows_changed listed numbered others fun card k number => ?_
  rw [held, mem_homes_middle, ← sameId]
  simp [Ne.symm number]

theorem numbered_paint {d : Deck} {m : Nat} {front back : List Category} {c : Category} (numbered : Numbered m d)
    (held : d.categories = front ++ c :: back) (swatch : Swatch) :
    Numbered m { d with categories := front ++ { c with swatch := swatch } :: back } := by
  have numbers : (front ++ { c with swatch := swatch } :: back).map Category.id = d.categories.map Category.id := by
    simp [held]
  have same : homes (front ++ { c with swatch := swatch } :: back) = homes d.categories := by
    funext card
    apply OrderedSet.ext_mem
    intro k
    rw [held, mem_homes_middle, mem_homes_middle]
    rfl
  have below := below_of_numbers numbered numbers
  refine ⟨numbered.next, by rw [numbers]; exact numbered.ascending, below, ?_⟩
  rw [same]
  exact numbered.rows

theorem numbered_move {d e : Deck} {m n : Nat} (listed : Listed d) (numbered : Numbered m d) (move : Move d n e)
    (few : m + n ≤ UInt32.size) : Numbered (m + n) e := by
  cases move with
  | recount i n positive =>
    refine ⟨numbered.next, numbered.ascending, numbered.below, ?_⟩
    rw [cards_recount]
    exact numbered.rows
  | enter card n positive absent => exact numbered_enter listed numbered card n absent
  | leave i id present => exact numbered_leave listed numbered i id present
  | clear => exact ⟨numbered.next, List.Pairwise.nil, by simp [clear, empty], fun _ => rfl⟩
  | found c fresh number apart => exact numbered_found listed numbered number few
  | close front back c held => exact numbered_close numbered held
  | alter front back c new held sameId apart name => exact numbered_alter listed numbered held sameId
  | paint front back c swatch held => exact numbered_paint numbered held swatch

theorem moves_listed {d e : Deck} {n : Nat} (listed : Listed d) (moves : Moves d n e) : Listed e := by
  induction moves with
  | stay => exact listed
  | next _ last ih => exact listed_move ih last

theorem moves_viewed {d e : Deck} {n : Nat} (listed : Listed d) (viewed : Viewed d) (moves : Moves d n e) :
    Viewed e := by
  induction moves with
  | stay => exact viewed
  | next before last ih => exact viewed_move (moves_listed listed before) ih last

theorem moves_numbered {d e : Deck} {m n : Nat} (listed : Listed d) (numbered : Numbered m d) (moves : Moves d n e)
    (few : m + n ≤ UInt32.size) : Numbered (m + n) e := by
  induction moves with
  | stay => exact numbered
  | next before last ih =>
    rw [← Nat.add_assoc]
    exact numbered_move (moves_listed listed before) (ih (by omega)) last (by omega)

theorem reached_listed {n : Nat} {d : Deck} (reached : Reached n d) : Listed d :=
  moves_listed listed_empty (reached_moves reached)

theorem reached_viewed {n : Nat} {d : Deck} (reached : Reached n d) : Viewed d :=
  moves_viewed listed_empty viewed_empty (reached_moves reached)

theorem reached_numbered {n : Nat} {d : Deck} (reached : Reached n d) (few : n ≤ UInt32.size) : Numbered n d := by
  simpa using moves_numbered listed_empty numbered_empty (reached_moves reached) (by simpa using few)

/-- A deck whose five records tell the same. -/
structure Consistent (d : Deck) : Prop where
  distinct : (d.entries.map Entry.id).Nodup
  counted : ∀ e ∈ d.entries, 1 ≤ e.count
  placed : ∀ id i, d.positions.get? id = some i ↔ ∃ e, d.entries[i]? = some e ∧ e.id = id
  rows : d.memberships.keys.Perm (d.entries.map Entry.id)
  row : ∀ e ∈ d.entries, ∃ row, d.memberships.get? e.id = some row ∧
    ∀ k, k ∈ row.toList ↔ ∃ c ∈ d.categories, c.includes e.card = true ∧ c.id = k
  members : ∀ c ∈ d.categories, c.members = (d.entries.filter fun e => c.includes e.card).map Entry.id
  apart : ∀ c ∈ d.categories, ∀ id, ¬ (id ∈ c.whitelist.toList ∧ id ∈ c.blacklist.toList)
  named : (d.categories.map Category.name).Nodup
  ascending : (d.categories.map Category.id).Pairwise (· < ·)
  below : ∀ c ∈ d.categories, c.id < d.nextCategory

theorem listed_places {d : Deck} (listed : Listed d) (id : CardId) (i : Nat) :
    d.positions.get? id = some i ↔ ∃ e, d.entries[i]? = some e ∧ e.id = id := by
  constructor
  · intro present
    obtain ⟨front, e, back, held, rfl, same, _⟩ := position_split listed present
    exact ⟨e, by simp [held], same⟩
  · rintro ⟨e, access, rfl⟩
    have member := List.mem_map_of_mem (f := Entry.card) (List.mem_of_getElem? access)
    cases present : d.position? e.id with
    | none => exact absurd rfl (absent_ids listed present e.card member)
    | some j =>
      obtain ⟨front, other, back, held, rfl, same, _⟩ := position_split listed present
      have distinct := listed.distinct
      rw [← entry_ids] at distinct
      obtain ⟨within, _⟩ := List.getElem?_eq_some_iff.1 access
      have place : i = front.length := by
        apply (List.getElem?_inj (by simpa using within) distinct).1
        rw [List.getElem?_map, List.getElem?_map, access, held]
        simp [same]
      rw [place]
      exact present

theorem find_own {es : List Entry} (distinct : (es.map Entry.id).Nodup) {e : Entry} (member : e ∈ es) :
    es.find? (fun other => other.id = e.id) = some e := by
  obtain ⟨front, back, rfl⟩ := List.append_of_mem member
  rw [List.map_append, List.map_cons, List.nodup_append] at distinct
  refine List.find?_eq_some_iff_append.2 ⟨by simp, front, back, rfl, fun other before => ?_⟩
  have away := distinct.2.2 other.id (List.mem_map_of_mem before) e.id (by simp)
  simpa using away

theorem card_found {d : Deck} (listed : Listed d) {e : Entry} (member : e ∈ d.entries) :
    d.cards.find? (fun card => card.id = e.id) = some e.card := by
  have distinct := listed.distinct
  rw [← entry_ids] at distinct
  have own : (d.entries.find? fun other => other.id = e.id).map Entry.card = some e.card := by
    rw [find_own distinct member, Option.map_some]
  rw [cards, List.find?_map]
  exact own

theorem rows_of_ids {n : Nat} {d : Deck} (listed : Listed d) (numbered : Numbered n d) :
    d.memberships.keys.Perm (d.entries.map Entry.id) := by
  rw [entry_ids]
  refine (List.perm_ext_iff_of_nodup (OrderedMap.keys_nodup _) listed.distinct).2 fun id => ?_
  rw [← OrderedMap.get_isSome_iff, numbered.rows]
  simp [List.find?_isSome]

/-- The five records of a deck tell the same whatever was asked of it. -/
theorem reached_consistent {n : Nat} {d : Deck} (reached : Reached n d) (few : n < UInt32.size) :
    Consistent d := by
  have listed := reached_listed reached
  have viewed := reached_viewed reached
  have numbered := reached_numbered reached (Nat.le_of_lt few)
  refine ⟨?_, ?_, listed_places listed, rows_of_ids listed numbered, ?_, ?_, ?_, viewed.named,
    numbered.ascending, ?_⟩
  · rw [entry_ids]
    exact listed.distinct
  · intro e member
    rw [UInt32.le_iff_toNat_le]
    exact count_positive (listed.counted e member)
  · intro e member
    refine ⟨homes d.categories e.card, ?_, fun k => mem_homes⟩
    rw [numbered.rows, card_found listed member]
    rfl
  · intro c member
    rw [viewed.members c member, cards, List.filter_map, List.map_map]
    rfl
  · exact fun c member id both => viewed.apart c member id both.1 both.2
  · intro c member
    rw [UInt32.lt_iff_toNat_lt, numbered.next]
    exact Nat.lt_of_lt_of_eq (numbered.below c member) (Nat.mod_eq_of_lt few).symm

theorem bears_consistent :
    let bear := Card.ofFaces "bear" ⟨"", "", "", ""⟩ .common [Face.ofName "Bear"]
    Consistent ((((empty.after (.add bear 2)).after (.addCategory ⟨"All", .everything, ["bull"], [], .black⟩)).after
      (.keepOut "All" bear)).after (.remove "bear" 1)) :=
  reached_consistent (.change _ (.change _ (.change _ (.change _ .start)))) (by decide)

end Deckwright.Deck
