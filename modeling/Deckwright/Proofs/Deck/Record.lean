import Deckwright.Deck.Document
import Deckwright.Proofs.Deck.Interleaving
set_option autoImplicit false

namespace Deckwright

namespace Deck

def renumber (cs : List Category) : List Category := cs.mapIdx fun i c => { c with id := UInt32.ofNat i }

def renumberRow (cs : List Category) (row : OrderedSet CategoryId) : OrderedSet CategoryId :=
  .ofList (row.toList.filterMap fun k => (cs.findIdx? fun c => c.id = k).map UInt32.ofNat)

def renumbered (d : Deck) : Deck :=
  { d with
    categories := renumber d.categories
    memberships := d.memberships.mapValues fun _ row => renumberRow d.categories row
    nextCategory := UInt32.ofNat d.categories.length }

section Renumber

variable {cs : List Category}

theorem mem_renumber {new : Category} :
    new ∈ renumber cs ↔ ∃ i, ∃ within : i < cs.length, { cs[i] with id := UInt32.ofNat i } = new :=
  List.mem_mapIdx

theorem renumber_concat (c : Category) :
    renumber (cs ++ [c]) = renumber cs ++ [{ c with id := UInt32.ofNat cs.length }] :=
  List.mapIdx_concat

theorem renumber_names : (renumber cs).map Category.name = cs.map Category.name := by
  refine List.ext_getElem (by simp [renumber]) fun i _ _ => ?_
  simp [renumber]

theorem renumbered_viewed {d : Deck} (viewed : Viewed d) : Viewed d.renumbered where
  members := by
    intro new member
    obtain ⟨i, within, rfl⟩ := mem_renumber.1 member
    exact viewed.members d.categories[i] (List.getElem_mem within)
  apart := by
    intro new member
    obtain ⟨i, within, rfl⟩ := mem_renumber.1 member
    exact viewed.apart d.categories[i] (List.getElem_mem within)
  named := by
    rw [renumbered, renumber_names]
    exact viewed.named

theorem place_of_number (ascending : (cs.map Category.id).Pairwise (· < ·)) {i : Nat} (within : i < cs.length) :
    (cs.findIdx? fun c => c.id = cs[i].id) = some i := by
  rw [List.findIdx?_eq_some_iff_getElem]
  refine ⟨within, by simp, fun j before => ?_⟩
  rw [List.pairwise_map, List.pairwise_iff_getElem] at ascending
  have less := ascending j i (by omega) within before
  simpa using UInt32.ne_of_lt less

theorem renumber_homes (ascending : (cs.map Category.id).Pairwise (· < ·)) (card : Card) :
    renumberRow cs (homes cs card) = homes (renumber cs) card := by
  apply OrderedSet.ext_mem
  intro k
  rw [renumberRow, OrderedSet.mem_ofList, List.mem_filterMap, mem_homes]
  constructor
  · rintro ⟨old, member, place⟩
    obtain ⟨c, inside, home, rfl⟩ := mem_homes.1 member
    obtain ⟨i, within, rfl⟩ := List.mem_iff_getElem.1 inside
    rw [place_of_number ascending within, Option.map_some, Option.some.injEq] at place
    exact ⟨_, mem_renumber.2 ⟨i, within, rfl⟩, home, place⟩
  · rintro ⟨new, member, home, number⟩
    obtain ⟨i, within, rfl⟩ := mem_renumber.1 member
    refine ⟨cs[i].id, mem_homes.2 ⟨_, List.getElem_mem within, home, rfl⟩, ?_⟩
    rw [place_of_number ascending within, Option.map_some]
    exact congrArg some number

theorem renumbered_rows {n : Nat} {d : Deck} (numbered : Numbered n d) (id : CardId) :
    d.renumbered.memberships.get? id =
      (d.cards.find? fun card => card.id = id).map (homes d.renumbered.categories) := by
  rw [renumbered, OrderedMap.get_map_values, numbered.rows, Option.map_map]
  exact congrArg (Option.map · _) (funext (renumber_homes numbered.ascending))

end Renumber

theorem rebuild_entries {inventory : Inventory} {es : List Entry} {n : Nat} {d : Deck} (reached : Reached n d)
    (bare : d.categories = []) (found : ∀ e ∈ es, inventory.get? e.id = some e.card) (counted : ∀ e ∈ es, e.count ≠ 0)
    (distinct : (es.map Entry.id).Nodup) (absent : ∀ e ∈ es, d.position? e.id = none) :
    ∃ full, (es.map fun e => (⟨e.id, e.count⟩ : EntryRecord)).foldlM (DeckRecord.addEntry inventory) d = .ok full ∧
      Reached n full ∧ full.entries = d.entries ++ es ∧ full.categories = [] ∧ full.nextCategory = d.nextCategory := by
  induction es generalizing d with
  | nil => exact ⟨d, rfl, reached, by simp, bare, rfl⟩
  | cons e rest ih =>
    obtain ⟨fresh, distinct⟩ := List.nodup_cons.1 distinct
    have added := add_absent (counted e (by simp)) (absent e (by simp) : d.position? e.card.id = none)
    have entered : DeckRecord.addEntry inventory d ⟨e.id, e.count⟩ = .ok (d.append e.card e.count) := by
      rw [DeckRecord.addEntry, found e (by simp)]
      dsimp only
      rw [if_neg (counted e (by simp)), added]
    have next : Reached n (d.append e.card e.count) := reached_append reached (counted e (by simp)) (absent e (by simp))
    obtain ⟨full, reading, last, entries, categories, number⟩ := ih next (by simp [append, bare])
      (fun other member => found other (List.mem_cons_of_mem e member))
      (fun other member => counted other (List.mem_cons_of_mem e member)) distinct (absent_append fresh absent)
    refine ⟨full, ?_, last, by simp [entries, append], categories, number⟩
    rw [List.map_cons, List.foldlM_cons, entered]
    exact reading

theorem rebuild_categories {cs done : List Category} {n : Nat} {d : Deck} (reached : Reached n d)
    (made : d.categories.map Category.unshown = (renumber done).map Category.unshown)
    (number : d.nextCategory = UInt32.ofNat done.length) (apart : ∀ c ∈ cs, c.Apart)
    (distinct : ((done ++ cs).map Category.name).Nodup) :
    ∃ full, (cs.map Category.toSpec).foldlM (fun d spec => (d.addCategory spec).map Prod.fst) d = .ok full ∧
      Reached (n + cs.length) full ∧ full.entries = d.entries ∧
      full.categories.map Category.unshown = (renumber (done ++ cs)).map Category.unshown ∧
      full.nextCategory = UInt32.ofNat (done ++ cs).length := by
  induction cs generalizing done n d with
  | nil => exact ⟨d, rfl, reached, rfl, by simpa using made, by simpa using number⟩
  | cons c rest ih =>
    have free : d.containsCategory c.toSpec.name = false := by
      have names : d.categories.map Category.name = done.map Category.name := by
        have named := congrArg (List.map Category.name) made
        rw [List.map_map, List.map_map] at named
        exact named.trans renumber_names
      refine contains_category_false.2 fun other member same => ?_
      have front : c.name ∈ done.map Category.name := by
        rw [← names]
        exact List.mem_map.2 ⟨other, member, same⟩
      rw [List.map_append, List.nodup_append] at distinct
      exact distinct.2.2 c.name front c.name (by simp) rfl
    have founds : d.founded (.addCategory c.toSpec) = 1 := by simp [founded, free]
    have next : Reached (n + 1) (d.widen c.toSpec) := by
      have changed := Reached.change (.addCategory c.toSpec) reached
      rwa [founds, after, add_category_fresh free] at changed
    have wider : (d.widen c.toSpec).categories.map Category.unshown =
        (renumber (done ++ [c])).map Category.unshown := by
      have last : Category.ofSpec d.nextCategory c.toSpec = { c with id := d.nextCategory, members := [] } :=
        Category.of_spec_to_spec _ (apart c (by simp))
      rw [widen, changed, last, List.map_append, made, number, renumber_concat, List.map_append]
      rfl
    have numbered : (d.widen c.toSpec).nextCategory = UInt32.ofNat (done ++ [c]).length := by
      rw [List.length_append, UInt32.ofNat_add, ← number]
      rfl
    obtain ⟨full, reading, last, entries, categories, all⟩ := ih next wider numbered
      (fun other member => apart other (List.mem_cons_of_mem c member)) (by simpa using distinct)
    rw [List.append_assoc, List.singleton_append] at categories all
    refine ⟨full, ?_, ?_, entries, categories, all⟩
    · rw [List.map_cons, List.foldlM_cons, add_category_fresh free]
      exact reading
    · rwa [List.length_cons, Nat.add_comm rest.length, ← Nat.add_assoc]

theorem same_cards_of_entries {d e : Deck} (left : Listed d) (right : Listed e) (entries : d.entries = e.entries) :
    SameCards d e := by
  refine ⟨entries, OrderedMap.ext_get fun id => ?_⟩
  have listed : d.cards = e.cards := congrArg (List.map Entry.card) entries
  have place := left.placed id
  rw [listed, ← right.placed] at place
  exact place

def Known (inventory : Inventory) (d : Deck) : Prop := ∀ e ∈ d.entries, inventory.get? e.id = some e.card

section Rebuilt

variable {n : Nat} {d : Deck} {inventory : Inventory}

theorem made_from_record (reached : Reached n d) (known : Known inventory d) :
    ∃ made, d.toRecord.toDeck inventory = .ok made ∧ Reached d.categories.length made ∧ SameCards made d ∧
      made.categories = d.renumbered.categories ∧ made.nextCategory = d.renumbered.nextCategory := by
  have listed := reached_listed reached
  have viewed := reached_viewed reached
  have distinct : (d.entries.map Entry.id).Nodup := by
    rw [entry_ids]
    exact listed.distinct
  obtain ⟨bare, entered, reachedBare, entries, none, zero⟩ :=
    rebuild_entries .start rfl known listed.counted distinct (fun _ _ => rfl)
  have unmade : bare.categories.map Category.unshown = (renumber []).map Category.unshown := by
    rw [none]
    rfl
  obtain ⟨made, founded, reachedMade, kept, shelf, next⟩ :=
    rebuild_categories reachedBare unmade zero viewed.apart viewed.named
  have rebuilt : d.toRecord.toDeck inventory = .ok made := by
    rw [DeckRecord.toDeck, toRecord]
    dsimp only
    rw [entered]
    exact founded
  have cards : SameCards made d := same_cards_of_entries (reached_listed reachedMade) listed (kept.trans entries)
  have categories : made.categories = d.renumbered.categories :=
    categories_of_cards (reached_viewed reachedMade) (renumbered_viewed viewed) cards ⟨shelf, next⟩
  rw [Nat.zero_add] at reachedMade
  exact ⟨made, rebuilt, reachedMade, cards, categories, next⟩

theorem rebuilt_but_for_rows (reached : Reached n d) (known : Known inventory d) :
    ∃ rows, d.toRecord.toDeck inventory = .ok { d.renumbered with memberships := rows } := by
  obtain ⟨made, rebuilt, _, cards, categories, next⟩ := made_from_record reached known
  have whole : made = { d.renumbered with memberships := made.memberships } := same_but_for_rows cards categories next
  exact ⟨made.memberships, rebuilt.trans (congrArg Except.ok whole)⟩

theorem rebuilt_whole (reached : Reached n d) (few : n ≤ UInt32.size) (known : Known inventory d) :
    d.toRecord.toDeck inventory = .ok d.renumbered := by
  obtain ⟨made, rebuilt, reachedMade, cards, categories, next⟩ := made_from_record reached known
  have numbered := reached_numbered reachedMade (Nat.le_trans (reached_categories reached) few)
  have held : made.cards = d.cards := congrArg (List.map Entry.card) cards.1
  have rows : made.memberships = d.renumbered.memberships := by
    apply OrderedMap.ext_get
    intro id
    rw [numbered.rows, renumbered_rows (reached_numbered reached few), held, categories]
  have whole : made = { d.renumbered with memberships := made.memberships } := same_but_for_rows cards categories next
  rw [rebuilt, whole, rows]

end Rebuilt

theorem shared_herd_known : Known ⟨[bear]⟩ sharedHerd := by
  intro e member
  obtain rfl := List.mem_singleton.1 member
  rfl

-- The row that the shared number has spoilt is made as it should be.
theorem shared_herd_made_anew : sharedHerd.toRecord.toDeck ⟨[bear]⟩ ≠ .ok sharedHerd.renumbered := by
  apply ne_of_apply_ne (Except.map fun d => (d.categoriesOf "bear").length)
  intro same
  exact Nat.one_ne_zero (Except.ok.inj same)

/-- Whatever led to a deck, its record makes it again if its cards are known: the entries, the categories and
    the cards they show are the same. So are the categories of each card in all decks of at most so many
    categories ever made, if and only if there are as many numbers for them. -/
theorem record_rebuilt (most : Nat) :
    (∀ n d inventory, Reached n d → Known inventory d →
      ∃ rows, d.toRecord.toDeck inventory = .ok { d.renumbered with memberships := rows }) ∧
      ((∀ n d inventory, Reached n d → n ≤ most → Known inventory d →
        d.toRecord.toDeck inventory = .ok d.renumbered) ↔ most ≤ UInt32.size) := by
  refine ⟨?_, ?_, ?_⟩
  · intro n d inventory reached known
    exact rebuilt_but_for_rows reached known
  · intro again
    apply Nat.le_of_not_lt
    intro more
    exact shared_herd_made_anew (again _ _ _ shared_herd_reached more shared_herd_known)
  · intro enough n d inventory reached few known
    exact rebuilt_whole reached (Nat.le_trans few enough) known

theorem bears_rebuilt :
    let bear := Card.ofFaces "bear" ⟨"", "", "", ""⟩ .common [Face.ofName "Bear"]
    let d := (((empty.after (.addCategory ⟨"None", .nothing, ["bear"], [], .black⟩)).after
      (.addCategory ⟨"All", .everything, [], ["bull"], .black⟩)).after (.removeCategory "None")).after (.add bear 2)
    d.toRecord.toDeck ⟨[bear]⟩ = .ok d.renumbered := by
  intro bear d
  obtain ⟨n, few, reached⟩ : ∃ n, n ≤ UInt32.size ∧ Reached n d :=
    ⟨_, by decide, .change _ (.change _ (.change _ (.change _ .start)))⟩
  have known : Known ⟨[bear]⟩ d := by
    intro e member
    obtain rfl := List.mem_singleton.1 member
    rfl
  exact (record_rebuilt UInt32.size).2.2 (Nat.le_refl _) n d ⟨[bear]⟩ reached few known

theorem shared_number_made_anew :
    Reached (UInt32.size + 1) sharedHerd ∧ Known ⟨[bear]⟩ sharedHerd ∧
      sharedHerd.toRecord.toDeck ⟨[bear]⟩ ≠ .ok sharedHerd.renumbered :=
  ⟨shared_herd_reached, shared_herd_known, shared_herd_made_anew⟩

end Deck

end Deckwright
