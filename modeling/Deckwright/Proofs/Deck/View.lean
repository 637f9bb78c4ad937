import Deckwright.Deck.View
import Deckwright.Proofs.Deck.Count
import Deckwright.Proofs.Deck.Numbers
import Mathlib.Data.List.Basic
set_option autoImplicit false

namespace Deckwright.Deck

def capped (n : Nat) : Nat := min (UInt32.size - 1) n

structure View.Answers (v : View) (es : List Entry) : Prop where
  size : v.size = es.length
  isEmpty : v.isEmpty = es.isEmpty
  cards : v.cards = es.map Entry.card
  cardAt : ∀ i, v.cardAt? i = es[i]?.map Entry.card
  position : ∀ id, v.position? id = es.findIdx? fun e => e.id = id
  contains : ∀ id, v.contains id = es.any fun e => e.id = id
  count : ∀ id, v.count id = countOf (es.find? fun e => e.id = id)
  copies : v.copies.toNat = capped (copiesIn es)

def homesOf (cs : List Category) : Option Entry → List Category
  | some e => cs.filter fun c => c.includes e.card
  | none => []

section Totals

theorem sum_capped (m n : UInt32) : ((sum? m n).getD greatest).toNat = capped (m.toNat + n.toNat) := by
  rw [capped]
  cases counted : sum? m n with
  | none =>
    have full : ¬ m.toNat + n.toNat < UInt32.size := fun fits => by simp [sum?, fits] at counted
    have most : greatest.toNat = UInt32.size - 1 := rfl
    rw [Option.getD_none, most]
    omega
  | some count =>
    have exact := sum_exact counted
    have bound := count.toNat_lt_size
    rw [Option.getD_some]
    omega

theorem total_from (counts : List UInt32) (start : UInt32) :
    (counts.foldl (fun m n => (sum? m n).getD greatest) start).toNat =
      capped (start.toNat + (counts.map UInt32.toNat).sum) := by
  induction counts generalizing start with
  | nil =>
    have bound := start.toNat_lt_size
    rw [List.foldl_nil, List.map_nil, List.sum_nil, capped]
    omega
  | cons n rest ih =>
    rw [List.foldl_cons, ih, sum_capped, List.map_cons, List.sum_cons]
    simp only [capped]
    omega

theorem total_capped (es : List Entry) : (total (es.map Entry.count)).toNat = capped (copiesIn es) := by
  rw [total, total_from, List.map_map, UInt32.toNat_zero, Nat.zero_add]
  rfl

end Totals

section Shown

variable {d : Deck} {c : Category} {es : List Entry}

theorem answers_of_members (listed : Listed d) (part : es.Sublist d.entries) (shown : c.members = es.map Entry.id) :
    View.Answers ⟨d, c⟩ es := by
  have inside {e : Entry} (member : e ∈ es) : e ∈ d.entries := part.subset member
  have own {e : Entry} (member : e ∈ es) : d.card? e.id = some e.card :=
    card_of_member listed (List.mem_map_of_mem (inside member))
  have distinct : (es.map Entry.id).Nodup := by
    have all := listed.distinct
    rw [← entry_ids] at all
    exact all.sublist (part.map Entry.id)
  have contains (id : CardId) : View.contains ⟨d, c⟩ id = es.any fun e => e.id = id := by
    rw [View.contains, shown, Bool.eq_iff_iff]
    simp
  refine ⟨?_, ?_, ?_, fun i => ?_, fun id => ?_, contains, fun id => ?_, ?_⟩
  · rw [View.size, shown, List.length_map]
  · rw [View.isEmpty, shown, List.isEmpty_map]
  · rw [View.cards, shown, List.filterMap_map]
    exact List.filterMap_eq_map_iff_forall_eq_some.2 fun e member => own member
  · rw [View.cardAt?, shown, List.getElem?_map]
    cases access : es[i]? with
    | none => rfl
    | some e => exact own (List.mem_of_getElem? access)
  · rw [View.position?, shown, List.findIdx?_map]
    rfl
  · rw [View.count, contains]
    by_cases held : ∃ e ∈ es, e.id = id
    · obtain ⟨e, member, rfl⟩ := held
      rw [if_pos (by simpa using ⟨e, member, rfl⟩), find_own distinct member]
      exact count_own listed (inside member)
    · rw [find_others fun e member same => held ⟨e, member, same⟩, if_neg (by simpa using held)]
      rfl
  · rw [View.copies, shown, List.map_map, ← total_capped]
    exact congrArg (fun counts => (total counts).toNat)
      (List.map_congr_left fun e member => count_own listed (inside member))

end Shown

section Homes

variable {cs : List Category}

theorem homes_in_order (ascending : (cs.map Category.id).Pairwise (· < ·)) (card : Card) :
    (homes cs card).toList = (cs.filter fun c => c.includes card).map Category.id := by
  refine Ordered.increasing_ext (homes cs card).increasing ?_ fun k => OrderedSet.mem_ofList
  refine (ascending.sublist (List.filter_sublist.map Category.id)).imp fun less => ?_
  exact Std.compare_eq_lt.2 less

theorem category_of_number {d : Deck} (ascending : (d.categories.map Category.id).Pairwise (· < ·)) {c : Category}
    (held : c ∈ d.categories) : d.categoryWithId? c.id = some c := by
  obtain ⟨front, back, split⟩ := List.append_of_mem held
  rw [split] at ascending
  have others := ids_apart ascending
  refine List.find?_eq_some_iff_append.2 ⟨by simp, front, back, split, fun other before => ?_⟩
  simpa using others other (List.mem_append_left back before)

theorem categories_found {d : Deck} {n : Nat} (numbered : Numbered n d) (id : CardId) :
    d.categoriesOf id = homesOf d.categories (d.entries.find? fun e => e.id = id) := by
  have ascending := numbered.ascending
  have row : d.memberships.get? id = (d.entries.find? fun e => e.id = id).map fun e => homes d.categories e.card := by
    rw [numbered.rows, cards, List.find?_map, Option.map_map]
    rfl
  rw [categoriesOf, row]
  cases d.entries.find? fun e => e.id = id with
  | none => rfl
  | some e =>
    rw [Option.map_some]
    dsimp only
    rw [homes_in_order ascending, List.filterMap_map, homesOf]
    refine (List.filterMap_eq_map_iff_forall_eq_some.2 fun c member => ?_).trans (List.map_id _)
    exact category_of_number ascending (List.mem_of_mem_filter member)

end Homes

theorem views_answer {n : Nat} {d : Deck} (reached : Reached n d) :
    ∀ v ∈ d.views, v.Answers (d.entries.filter fun e => v.category.includes e.card) := by
  intro v held
  obtain ⟨c, member, rfl⟩ := List.mem_map.1 held
  refine answers_of_members (reached_listed reached) List.filter_sublist ?_
  rw [(reached_viewed reached).members c member, cards, ← members_of_cards]
  rfl

theorem shared_herd_unanswered :
    sharedHerd.categoriesOf "bear" ≠ homesOf sharedHerd.categories (sharedHerd.entries.find? fun e => e.id = "bear") := by
  apply ne_of_apply_ne List.length
  exact Nat.zero_ne_one

/-- The views of a deck answer as the entries whose cards their categories include, and its totals are the sums
    over the entries as far as they can be counted. A card has the categories that include it in every deck of
    at most so many categories ever made if and only if there are as many numbers for them. -/
theorem answered_from_scratch (most : Nat) :
    (∀ n d, Reached n d →
      (∀ v ∈ d.views, v.Answers (d.entries.filter fun e => v.category.includes e.card)) ∧
        d.copies.toNat = capped (copiesIn d.entries) ∧
        d.lands.toNat = capped (copiesIn (d.entries.filter fun e => e.card.isLand)) ∧
        d.nonlands.toNat = capped (copiesIn (d.entries.filter fun e => !e.card.isLand))) ∧
      ((∀ n d, Reached n d → n ≤ most → ∀ id,
        d.categoriesOf id = homesOf d.categories (d.entries.find? fun e => e.id = id)) ↔ most ≤ UInt32.size) := by
  refine ⟨fun n d reached => ⟨views_answer reached, total_capped _, total_capped _, total_capped _⟩, ?_, ?_⟩
  · intro told
    apply Nat.le_of_not_lt
    intro more
    exact shared_herd_unanswered (told _ _ shared_herd_reached more "bear")
  · intro enough n d reached few
    exact categories_found (reached_numbered reached (Nat.le_trans few enough))

theorem bears_answered :
    let bear := Card.ofFaces "bear" ⟨"", "", "", ""⟩ .common [Face.ofName "Bear"]
    let bull := Card.ofFaces "bull" ⟨"", "", "", ""⟩ .common [Face.ofName "Bull"]
    let d := (((empty.after (.add bear greatest)).after (.add bull greatest)).after
      (.addCategory ⟨"All", .everything, [], [], .black⟩)).after (.keepOut "All" bear)
    d.copies.toNat = UInt32.size - 1 ∧ d.categoriesOf "bear" = [] ∧
      ∀ v ∈ d.views, v.Answers [⟨bull, greatest⟩] := by
  intro bear bull d
  obtain ⟨n, few, reached⟩ : ∃ n, n ≤ UInt32.size ∧ Reached n d :=
    ⟨_, by decide +kernel, .change _ (.change _ (.change _ (.change _ .start)))⟩
  obtain ⟨answered, homed⟩ := answered_from_scratch UInt32.size
  obtain ⟨views, copies, _, _⟩ := answered n d reached
  have homes := homed.2 (Nat.le_refl _) n d reached few "bear"
  have full : capped (copiesIn d.entries) = UInt32.size - 1 := by decide +kernel
  have out : homesOf d.categories (d.entries.find? fun e => e.id = "bear") = [] := by decide +kernel
  have shown : ∀ v ∈ d.views, (d.entries.filter fun e => v.category.includes e.card) = [⟨bull, greatest⟩] := by
    decide +kernel
  refine ⟨copies.trans full, homes.trans out, fun v held => ?_⟩
  rw [← shown v held]
  exact views v held

-- The first category includes the bear, and the last one, of the same number, took it out of the bear's row.
theorem shared_number_unanswered :
    Reached (UInt32.size + 1) sharedHerd ∧ sharedHerd.categoriesOf "bear" = [] ∧
      ∃ c ∈ sharedHerd.categories, ∃ e ∈ sharedHerd.entries, e.id = "bear" ∧ c.includes e.card = true :=
  ⟨shared_herd_reached, List.length_eq_zero_iff.1 rfl, _, List.mem_cons_self, _, List.mem_cons_self, rfl, rfl⟩

end Deckwright.Deck
