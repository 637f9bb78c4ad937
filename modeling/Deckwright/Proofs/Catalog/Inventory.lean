import Deckwright.Catalog.Inventory
import Deckwright.Proofs.Ordered
import Mathlib.Data.List.Basic
import Mathlib.Data.List.Induction
set_option autoImplicit false

namespace Deckwright

section FirstCards

def leaders (cards : List Card) : List Card :=
  (cards.zipIdx.filter fun p => (cards.take p.2).all fun c => c.id ≠ p.1.id).map Prod.fst

theorem leaders_concat (cards : List Card) (c : Card) :
    leaders (cards ++ [c]) = leaders cards ++ if c.id ∈ cards.map Card.id then [] else [c] := by
  have before {p : Card × Nat} (member : p ∈ cards.zipIdx) : (cards ++ [c]).take p.2 = cards.take p.2 :=
    List.take_append_of_le_length (Nat.le_of_lt (List.snd_lt_of_mem_zipIdx member))
  have front : (cards.zipIdx.filter fun p => ((cards ++ [c]).take p.2).all fun d => d.id ≠ p.1.id) =
      cards.zipIdx.filter fun p => (cards.take p.2).all fun d => d.id ≠ p.1.id :=
    List.filter_congr fun p member => by rw [before member]
  have ahead : ((cards ++ [c]).take cards.length).all (fun d => d.id ≠ c.id) = !decide (c.id ∈ cards.map Card.id) := by
    rw [List.take_left, Bool.eq_iff_iff]
    simp
  rw [leaders, List.zipIdx_append, List.filter_append, List.map_append, front, leaders, Nat.zero_add, List.zipIdx_singleton,
    List.filter_singleton, ahead]
  by_cases again : c.id ∈ cards.map Card.id
  · rw [if_pos again, decide_eq_true again]
    rfl
  · rw [if_neg again, decide_eq_false again]
    rfl

theorem first_of_each_id_cons (c : Card) (rest : List Card) :
    firstOfEachId (c :: rest) = c :: (firstOfEachId rest).filter fun d => d.id ≠ c.id := rfl

theorem first_of_each_id_concat (cards : List Card) (c : Card) :
    firstOfEachId (cards ++ [c]) = firstOfEachId cards ++ if c.id ∈ cards.map Card.id then [] else [c] := by
  induction cards with
  | nil => rfl
  | cons d rest ih =>
    rw [List.cons_append, first_of_each_id_cons, first_of_each_id_cons, ih, List.filter_append, List.cons_append]
    congr 2
    by_cases same : c.id = d.id
    · by_cases again : c.id ∈ rest.map Card.id <;> simp [same]
    · by_cases again : c.id ∈ rest.map Card.id <;> simp [same, again]

theorem first_of_each_id_leaders (cards : List Card) : firstOfEachId cards = leaders cards := by
  induction cards using List.reverseRecOn with
  | nil => rfl
  | append_singleton cards c ih => rw [first_of_each_id_concat, leaders_concat, ih]

theorem first_of_each_id_distinct (cards : List Card) : ((firstOfEachId cards).map Card.id).Nodup := by
  induction cards with
  | nil => exact List.nodup_nil
  | cons c rest ih =>
    rw [first_of_each_id_cons, List.map_cons, List.nodup_cons]
    refine ⟨fun again => ?_, ih.sublist (List.filter_sublist.map Card.id)⟩
    obtain ⟨d, kept, same⟩ := List.mem_map.1 again
    have other := (List.mem_filter.1 kept).2
    simp [same] at other

theorem first_of_each_id_same {cards : List Card} (distinct : (cards.map Card.id).Nodup) :
    firstOfEachId cards = cards := by
  induction cards with
  | nil => rfl
  | cons c rest ih =>
    rw [List.map_cons, List.nodup_cons] at distinct
    obtain ⟨fresh, later⟩ := distinct
    rw [first_of_each_id_cons, ih later]
    congr 1
    refine List.filter_eq_self.2 fun d member => ?_
    have other : d.id ≠ c.id := fun same => fresh (same ▸ List.mem_map_of_mem member)
    simpa using other

theorem first_of_each_id_find (cards : List Card) (id : CardId) :
    (firstOfEachId cards).find? (fun c => c.id = id) = cards.find? fun c => c.id = id := by
  induction cards with
  | nil => rfl
  | cons c rest ih =>
    rw [first_of_each_id_cons, List.find?_cons, List.find?_cons, List.find?_filter]
    by_cases own : c.id = id
    · simp [own]
    · have others : (fun d : Card => decide (decide (d.id ≠ c.id) = true ∧ decide (d.id = id) = true)) =
          fun d => decide (d.id = id) := by
        funext d
        by_cases hit : d.id = id <;> simp [hit, Ne.symm own]
      rw [others, ih]

theorem mem_first_of_each_id (cards : List Card) (id : CardId) :
    (∃ c ∈ firstOfEachId cards, c.id = id) ↔ ∃ c ∈ cards, c.id = id := by
  have same := congrArg Option.isSome (first_of_each_id_find cards id)
  rw [Bool.eq_iff_iff, List.find?_isSome, List.find?_isSome] at same
  simpa using same

theorem first_of_each_id_kept {front back : List Card} {c : Card} (new : c ∉ front) :
    c ∈ firstOfEachId (front ++ c :: back) ↔ ∀ b ∈ front, b.id ≠ c.id := by
  induction front with
  | nil => simp [first_of_each_id_cons]
  | cons b rest ih =>
    obtain ⟨other, later⟩ := List.ne_and_not_mem_of_not_mem_cons new
    rw [List.cons_append, first_of_each_id_cons, List.mem_cons, List.mem_filter, ih later, List.forall_mem_cons]
    simp [other, and_comm, ne_comm]

theorem place_iff {cards : List Card} (distinct : (cards.map Card.id).Nodup) (id : CardId) (i : Nat) :
    cards.findIdx? (fun c => c.id = id) = some i ↔ ∃ c, cards[i]? = some c ∧ c.id = id := by
  rw [List.findIdx?_eq_some_iff_getElem]
  constructor
  · rintro ⟨within, own, _⟩
    exact ⟨cards[i], List.getElem?_eq_getElem within, of_decide_eq_true own⟩
  · rintro ⟨c, there, rfl⟩
    obtain ⟨within, rfl⟩ := List.getElem?_eq_some_iff.1 there
    refine ⟨within, decide_eq_true rfl, fun j before own => Nat.ne_of_lt before ?_⟩
    have short : j < (cards.map Card.id).length := by
      rw [List.length_map]
      exact Nat.lt_trans before within
    refine (List.getElem?_inj short distinct).1 ?_
    rw [List.getElem?_map, List.getElem?_map, there, List.getElem?_eq_getElem (Nat.lt_trans before within)]
    exact congrArg some (of_decide_eq_true own)

end FirstCards

section Index

-- By name first; block, code and date part sets of one name.
def Expansion.Before (a b : Expansion) : Prop :=
  a.name < b.name ∨ (a.name = b.name ∧ (a.block < b.block ∨ (a.block = b.block ∧
    (a.code < b.code ∨ (a.code = b.code ∧ a.releaseDate < b.releaseDate)))))

theorem text_before_iff {a b : String} : compare a b = .lt ↔ a < b := compareOfLessAndEq_eq_lt

theorem expansion_before_iff {a b : Expansion} : compare a b = .lt ↔ a.Before b := by
  have same {s t : String} : compare s t = .eq ↔ s = t := Std.LawfulEqCmp.compare_eq_iff_eq
  change Expansion.order a b = .lt ↔ _
  simp only [Expansion.order, compareLex, compareOn, Ordering.then_eq_lt, text_before_iff, same, Expansion.Before]

structure Listing {α : Type} (before : α → α → Prop) (occurs : α → Prop) (xs : List α) : Prop where
  increasing : xs.Pairwise before
  complete : ∀ x, x ∈ xs ↔ occurs x

structure InventoryIndex.Tells (x : InventoryIndex) (cards : List Card) : Prop where
  expansions : Listing Expansion.Before (fun e => ∃ c ∈ cards, c.expansion = e) x.expansions.toList
  expansionNames : Listing (· < ·) (fun s => ∃ c ∈ cards, c.expansion.name = s) x.expansionNames.toList
  blocks : Listing (· < ·) (fun s => ∃ c ∈ cards, c.expansion.block = s) x.blocks.toList
  supertypes : Listing (· < ·) (fun s => ∃ c ∈ cards, ∃ f ∈ c.faces, s ∈ f.supertypes.toList) x.supertypes.toList
  types : Listing (· < ·) (fun s => ∃ c ∈ cards, ∃ f ∈ c.faces, s ∈ f.types.toList) x.types.toList
  subtypes : Listing (· < ·) (fun s => ∃ c ∈ cards, ∃ f ∈ c.faces, s ∈ f.subtypes.toList) x.subtypes.toList
  formats : Listing (· < ·) (fun s => ∃ c ∈ cards, ∃ l, (s, l) ∈ c.legality.entries) x.formats.toList

theorem listing_of_set {s : OrderedSet String} {occurs : String → Prop} (complete : ∀ x, x ∈ s.toList ↔ occurs x) :
    Listing (· < ·) occurs s.toList :=
  ⟨s.increasing.imp text_before_iff.1, complete⟩

theorem listing_of_faces (cards : List Card) (values : Face → OrderedSet String) :
    Listing (· < ·) (fun s => ∃ c ∈ cards, ∃ f ∈ c.faces, s ∈ (values f).toList)
      (OrderedSet.ofList ((cards.flatMap Card.faces).flatMap fun f => (values f).toList)).toList := by
  refine listing_of_set fun x => ?_
  rw [OrderedSet.mem_ofList, List.flatMap_assoc]
  simp only [List.mem_flatMap]

theorem index_tells (cards : List Card) : (InventoryIndex.ofCards cards).Tells cards where
  expansions := ⟨(OrderedSet.increasing _).imp expansion_before_iff.1, fun e => OrderedSet.mem_ofList.trans List.mem_map⟩
  expansionNames := listing_of_set fun s => OrderedSet.mem_ofList.trans List.mem_map
  blocks := listing_of_set fun s => OrderedSet.mem_ofList.trans List.mem_map
  supertypes := listing_of_faces cards Face.supertypes
  types := listing_of_faces cards Face.types
  subtypes := listing_of_faces cards Face.subtypes
  formats := listing_of_set fun s => by
    rw [InventoryIndex.ofCards, OrderedSet.mem_ofList]
    simp [OrderedMap.keys]

namespace InventoryIndex

def noteFace (x : InventoryIndex) (f : Face) : InventoryIndex :=
  { x with
    supertypes := x.supertypes.insertMany f.supertypes.toList
    types := x.types.insertMany f.types.toList
    subtypes := x.subtypes.insertMany f.subtypes.toList }

def note (x : InventoryIndex) (c : Card) : InventoryIndex :=
  c.faces.foldl noteFace
    { x with
      expansions := x.expansions.insert c.expansion
      blocks := x.blocks.insert c.expansion.block
      formats := x.formats.insertMany c.legality.keys }

-- All lists are collected in one pass, but for the names, which are those of the expansions.
def gathered (cards : List Card) : InventoryIndex :=
  let x := cards.foldl note ⟨∅, ∅, ∅, ∅, ∅, ∅, ∅⟩
  { x with expansionNames := .ofList (x.expansions.toList.map Expansion.name) }

theorem faces_noted (fs : List Face) (x : InventoryIndex) : fs.foldl noteFace x =
    { x with
      supertypes := x.supertypes.insertMany (fs.flatMap fun f => f.supertypes.toList)
      types := x.types.insertMany (fs.flatMap fun f => f.types.toList)
      subtypes := x.subtypes.insertMany (fs.flatMap fun f => f.subtypes.toList) } := by
  induction fs generalizing x with
  | nil => rfl
  | cons f rest ih =>
    rw [List.foldl_cons, ih]
    simp only [List.flatMap_cons, OrderedSet.insert_many_append, noteFace]

theorem cards_noted (cards : List Card) (x : InventoryIndex) : cards.foldl note x =
    { x with
      expansions := x.expansions.insertMany (cards.map Card.expansion)
      blocks := x.blocks.insertMany (cards.map fun c => c.expansion.block)
      supertypes := x.supertypes.insertMany ((cards.flatMap Card.faces).flatMap fun f => f.supertypes.toList)
      types := x.types.insertMany ((cards.flatMap Card.faces).flatMap fun f => f.types.toList)
      subtypes := x.subtypes.insertMany ((cards.flatMap Card.faces).flatMap fun f => f.subtypes.toList)
      formats := x.formats.insertMany (cards.flatMap fun c => c.legality.keys) } := by
  induction cards generalizing x with
  | nil => rfl
  | cons c rest ih =>
    rw [List.foldl_cons, ih, note, faces_noted]
    simp only [List.flatMap_cons, List.flatMap_append, OrderedSet.insert_many_append]
    rfl

theorem gathered_all (cards : List Card) : gathered cards = ofCards cards := by
  have names : OrderedSet.ofList ((OrderedSet.ofList (cards.map Card.expansion)).toList.map Expansion.name) =
      .ofList (cards.map fun c => c.expansion.name) := by
    refine OrderedSet.ext_mem fun s => ?_
    simp only [OrderedSet.mem_ofList, List.mem_map]
    constructor
    · rintro ⟨e, ⟨c, held, rfl⟩, rfl⟩
      exact ⟨c, held, rfl⟩
    · rintro ⟨c, held, rfl⟩
      exact ⟨c.expansion, ⟨c, held, rfl⟩, rfl⟩
  rw [gathered, cards_noted, ofCards, ← names]
  rfl

end InventoryIndex

end Index

-- Cards put up one at a time, with the place of each id.
structure Shelf where
  cards : List Card
  places : OrderedMap CardId Nat

namespace Shelf

variable {cards : List Card} {s : Shelf}

def put (s : Shelf) (c : Card) : Shelf :=
  if s.places.contains c.id then s else ⟨s.cards ++ [c], s.places.insert c.id s.cards.length⟩

def ofCards (cards : List Card) : Shelf := cards.foldl put ⟨[], ∅⟩

def get? (s : Shelf) (id : CardId) : Option Card := (s.places.get? id).bind fun i => s.cards[i]?

structure Kept (cards : List Card) (s : Shelf) : Prop where
  cards : s.cards = firstOfEachId cards
  places : ∀ id, s.places.get? id = s.cards.findIdx? fun c => c.id = id

theorem kept_put (kept : Kept cards s) (c : Card) : Kept (cards ++ [c]) (s.put c) := by
  have held : s.places.contains c.id = true ↔ c.id ∈ cards.map Card.id := by
    rw [OrderedMap.contains, kept.places, List.findIdx?_isSome, kept.cards, List.any_eq_true, List.mem_map]
    simpa using mem_first_of_each_id cards c.id
  by_cases again : c.id ∈ cards.map Card.id
  · rw [put, if_pos (held.2 again)]
    refine ⟨?_, kept.places⟩
    rw [first_of_each_id_concat, if_pos again, List.append_nil, kept.cards]
  · rw [put, if_neg fun there => again (held.1 there)]
    refine ⟨?_, fun id => ?_⟩
    · rw [first_of_each_id_concat, if_neg again, kept.cards]
    · have absent : s.places.get? c.id = none := by
        simpa [OrderedMap.contains] using fun there => again (held.1 there)
      dsimp only
      rw [OrderedMap.get_insert, List.findIdx?_append, ← kept.places]
      by_cases own : id = c.id
      · subst own
        simp [absent]
      · simp [own, Ne.symm own]

theorem of_cards_kept (cards : List Card) : Kept cards (ofCards cards) := by
  induction cards using List.reverseRecOn with
  | nil => exact ⟨rfl, fun _ => rfl⟩
  | append_singleton cards c ih =>
    rw [ofCards, List.foldl_concat]
    exact kept_put ih c

theorem kept_unique {t : Shelf} (left : Kept cards s) (right : Kept cards t) : s = t := by
  obtain ⟨xs, ps⟩ := s
  obtain ⟨ys, qs⟩ := t
  obtain rfl : xs = ys := left.cards.trans right.cards.symm
  obtain rfl : ps = qs := OrderedMap.ext_get fun id => (left.places id).trans (right.places id).symm
  rfl

theorem of_cards_again (cards : List Card) : ofCards (ofCards cards).cards = ofCards cards := by
  have before := of_cards_kept cards
  have after := of_cards_kept (ofCards cards).cards
  refine kept_unique ⟨?_, after.places⟩ before
  rw [after.cards, before.cards, first_of_each_id_same (first_of_each_id_distinct cards)]

structure Answers (s : Shelf) (inv : Inventory) : Prop where
  cards : s.cards = inv.cards
  places : ∀ id i, s.places.get? id = some i ↔ ∃ c, inv.at? i = some c ∧ c.id = id
  found : ∀ id, s.get? id = inv.get? id
  contains : ∀ id, s.places.contains id = inv.contains id
  index : InventoryIndex.gathered s.cards = inv.index
  again : ofCards s.cards = s

theorem kept_answers (kept : Kept cards s) (again : ofCards s.cards = s) : s.Answers (Inventory.ofCards cards) where
  cards := kept.cards
  places id i := by
    rw [kept.places, kept.cards]
    exact place_iff (first_of_each_id_distinct cards) id i
  found id := by
    rw [get?, kept.places, kept.cards, Inventory.get?, List.find?_eq_bind_findIdx?_getElem?]
    rfl
  contains id := by
    rw [OrderedMap.contains, kept.places, kept.cards, Inventory.contains, Inventory.get?, List.findIdx?_isSome,
      List.isSome_find?]
    rfl
  index := by
    rw [kept.cards, InventoryIndex.gathered_all]
    rfl
  again := again

end Shelf

namespace Inventory

theorem of_cards_again (cards : List Card) : ofCards (ofCards cards).cards = ofCards cards :=
  congrArg Inventory.mk (first_of_each_id_same (first_of_each_id_distinct cards))

/-- Of each id the first card is kept, and it is the one that is found. The index has the values of the kept
    cards, an inventory made of its own cards is the same again, and so is one made card by card. -/
theorem made_of_first_cards (cards : List Card) :
    let inv := ofCards cards
    inv.cards = leaders cards ∧
      (∀ id, inv.get? id = cards.find? fun c => c.id = id) ∧
      (∀ id, inv.contains id = true ↔ ∃ c ∈ cards, c.id = id) ∧
      (∀ i, inv.at? i = (leaders cards)[i]?) ∧ inv.size = (leaders cards).length ∧
      inv.index.Tells (leaders cards) ∧
      ofCards inv.cards = inv ∧
      (Shelf.ofCards cards).Answers inv := by
  intro inv
  have kept : inv.cards = leaders cards := first_of_each_id_leaders cards
  have found (id : CardId) : inv.get? id = cards.find? fun c => c.id = id := first_of_each_id_find cards id
  refine ⟨kept, found, fun id => ?_, fun i => ?_, ?_, ?_, of_cards_again cards,
    Shelf.kept_answers (Shelf.of_cards_kept cards) (Shelf.of_cards_again cards)⟩
  · rw [contains, found, List.find?_isSome]
    simp
  · rw [at?, kept]
  · rw [size, kept]
  · rw [index, kept]
    exact index_tells (leaders cards)

end Inventory

end Deckwright
