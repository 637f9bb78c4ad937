import Deckwright.Proofs.Deck.Consistency
import Mathlib.Algebra.Ring.Nat
set_option autoImplicit false

namespace Deckwright.Deck

def copiesIn (es : List Entry) : Nat := (es.map fun e => e.count.toNat).sum

theorem count_at_split {d : Deck} {front back : List Entry} {e : Entry} (held : d.entries = front ++ e :: back) :
    d.countAt front.length = e.count := by
  simp [countAt, held, countOf]

theorem count_at_present {d : Deck} {id : CardId} {i : Nat} (listed : Listed d) (present : d.position? id = some i) :
    d.countAt i ≠ 0 := by
  obtain ⟨front, e, back, held, rfl, _, _⟩ := position_split listed present
  rw [count_at_split held]
  exact listed.counted e (by simp [held])

theorem entry_found {d : Deck} (listed : Listed d) (id : CardId) :
    d.entry? id = d.entries.find? fun e => e.id = id := by
  have placed : d.entry? id = (d.position? id).bind fun i => d.entries[i]? := rfl
  rw [placed]
  cases present : d.position? id with
  | none =>
    have absent := absent_ids listed present
    rw [Option.bind_none, Eq.comm, List.find?_eq_none]
    exact fun e member hit => absent e.card (List.mem_map_of_mem member) (of_decide_eq_true hit)
  | some i =>
    obtain ⟨front, e, back, held, rfl, same, others⟩ := position_split listed present
    have access : d.entries[front.length]? = some e := by simp [held]
    rw [Option.bind_some, access, Eq.comm, held, List.find?_eq_some_iff_append]
    refine ⟨by simpa using same, front, back, rfl, fun other before => ?_⟩
    simpa using others other (List.mem_append_left back before)

theorem count_found {d : Deck} (listed : Listed d) (id : CardId) :
    d.count id = countOf (d.entries.find? fun e => e.id = id) := by
  rw [count, entry_found listed]

theorem entry_own {d : Deck} (listed : Listed d) {e : Entry} (member : e ∈ d.entries) : d.entry? e.id = some e := by
  have distinct := listed.distinct
  rw [← entry_ids] at distinct
  rw [entry_found listed, find_own distinct member]

theorem count_own {d : Deck} (listed : Listed d) {e : Entry} (member : e ∈ d.entries) : d.count e.id = e.count := by
  rw [count, entry_own listed member]
  rfl

theorem card_of_member {d : Deck} (listed : Listed d) {card : Card} (member : card ∈ d.cards) :
    d.card? card.id = some card := by
  obtain ⟨e, inside, rfl⟩ := List.mem_map.1 member
  have own : d.entry? e.card.id = some e := entry_own listed inside
  rw [card?, own, Option.map_some]

theorem find_others {es : List Entry} {id : CardId} (away : ∀ e ∈ es, e.id ≠ id) :
    es.find? (fun e => e.id = id) = none := by
  simpa using away

theorem count_recount {d : Deck} {id : CardId} {i : Nat} {n : UInt32} (listed : Listed d)
    (present : d.position? id = some i) (positive : n ≠ 0) (x : CardId) :
    (d.setCountOf i n).count x = if x = id then n else d.count x := by
  rw [count_found (listed_recount listed i n positive), count_found listed]
  obtain ⟨front, e, back, held, rfl, same, others⟩ := position_split listed present
  have kept : ({ e with count := n } : Entry).id = id := same
  rw [recount_at_split held, held, List.find?_append, List.find?_append, List.find?_cons, List.find?_cons, kept, same]
  by_cases hit : x = id
  · subst hit
    rw [find_others fun other before => others other (List.mem_append_left back before)]
    simp [countOf]
  · simp [hit, Ne.symm hit]

theorem count_append {d : Deck} {card : Card} {n : UInt32} (listed : Listed d) (absent : d.position? card.id = none)
    (positive : n ≠ 0) (x : CardId) : (d.append card n).count x = if x = card.id then n else d.count x := by
  rw [count_found (listed_enter listed card n positive absent)]
  by_cases hit : x = card.id
  · subst hit
    have away := absent_ids listed absent
    have missing := find_others fun e member => away e.card (List.mem_map_of_mem member)
    rw [append]
    dsimp only
    rw [List.find?_append, missing]
    simp [Entry.id, countOf]
  · rw [if_neg hit, count_found listed]
    simp [append, Entry.id, Ne.symm hit]

theorem count_drop {d : Deck} {id : CardId} {i : Nat} (listed : Listed d) (present : d.position? id = some i)
    (x : CardId) : (d.dropAt i id).count x = if x = id then 0 else d.count x := by
  rw [count_found (listed_leave listed i id present)]
  obtain ⟨front, e, back, held, rfl, same, others⟩ := position_split listed present
  rw [drop_at_split id held]
  by_cases hit : x = id
  · subst hit
    rw [find_others others, if_pos rfl]
    rfl
  · rw [if_neg hit, count_found listed, held, List.find?_append, List.find?_append, List.find?_cons, same]
    simp [Ne.symm hit]

theorem count_added {d : Deck} {card : Card} {n : UInt32} (listed : Listed d) (taken : (d.add card n).2 = true)
    (x : CardId) :
    ((d.add card n).1.count x).toNat = (d.count x).toNat + if x = card.id then n.toNat else 0 := by
  rcases add_cases d card n with ⟨idle, _⟩ | ⟨i, count, present, positive, counted, more⟩ |
    ⟨absent, positive, entered⟩
  · rw [idle] at taken
    cases taken
  · rw [more, count_recount listed present (sum_nonzero positive counted)]
    by_cases own : x = card.id
    · rw [if_pos own, if_pos own, sum_exact counted, own, count_placed present]
    · rw [if_neg own, if_neg own, Nat.add_zero]
  · rw [entered, count_append listed absent positive]
    by_cases own : x = card.id
    · rw [if_pos own, if_pos own, own, count_absent absent, UInt32.toNat_zero, Nat.zero_add]
    · rw [if_neg own, if_neg own, Nat.add_zero]

theorem copies_recount {d : Deck} {front back : List Entry} {e : Entry} (held : d.entries = front ++ e :: back)
    (n : UInt32) :
    copiesIn d.entries + n.toNat = copiesIn (d.setCountOf front.length n).entries + e.count.toNat := by
  rw [recount_at_split held]
  simp only [copiesIn, held, List.map_append, List.map_cons, List.sum_append, List.sum_cons]
  omega

end Deckwright.Deck
