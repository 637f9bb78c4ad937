import Deckwright.Proofs.Deck.Legality
import Mathlib.Algebra.Group.Action.Defs
import Mathlib.Algebra.Order.BigOperators.Group.List
import Mathlib.Algebra.Order.Ring.Nat
set_option autoImplicit false

namespace Deckwright.Deck

section Legal

variable {d : Deck} {format : String} {r : FormatRules} {name : String}

theorem copies_bound {es : List Entry} {most : Nat} (each : ∀ e ∈ es, e.count.toNat ≤ most) :
    copiesIn es ≤ es.length * most := by
  have bound := List.sum_le_card_nsmul (es.map fun e => e.count.toNat) most (List.forall_mem_map.2 each)
  rwa [List.length_map, smul_eq_mul] at bound

def named (d : Deck) (name : String) : List Entry := d.entries.filter fun e => e.card.name = name

theorem named_bound (d : Deck) (name : String) : copiesIn (d.named name) ≤ copiesIn d.entries :=
  (List.filter_sublist.map _).sum_le_sum fun n _ => n.zero_le

/-- There are at most k times as many copies of the card as the rules allow. -/
def Within (d : Deck) (format : String) (r : FormatRules) (name : String) (k : Nat) : Prop :=
  ((∀ e ∈ d.named name, e.card.legalityIn format = .legal ∧ e.card.anyNumber = false) →
      copiesIn (d.named name) ≤ k * r.maxCopies.toNat) ∧
    ((∀ e ∈ d.named name, e.card.legalityIn format = .restricted) → copiesIn (d.named name) ≤ k)

theorem within_printings (fine : d.problems format r = []) (name : String) :
    d.Within format r name (d.named name).length := by
  have each {e : Entry} (member : e ∈ d.named name) := entry_fine_iff.1 ((no_problems_iff.1 fine).2 e (List.mem_filter.1 member).1)
  refine ⟨fun legal => copies_bound fun e member => ?_, fun restricted => ?_⟩
  · obtain ⟨listed, few⟩ := legal e member
    rcases each member with ⟨_, bound⟩ | ⟨other, _⟩
    · exact bound few
    · rw [listed] at other
      cases other
  · have bound : ∀ e ∈ d.named name, e.count.toNat ≤ 1 := fun e member => by
      rcases each member with ⟨other, _⟩ | ⟨_, bound⟩
      · rw [restricted e member] at other
        cases other
      · exact bound
    simpa using copies_bound bound

theorem within_lone_card (fine : d.problems format r = []) (exact : r.exactSize = true) (small : r.deckSize ≤ 1)
    (name : String) : d.Within format r name 1 := by
  have size := (size_fine_iff.1 (no_problems_iff.1 fine).1).2 exact
  have all : copiesIn d.entries ≤ 1 := by
    have capped_all : d.copies.toNat = capped (copiesIn d.entries) := total_capped d.entries
    have bound : r.deckSize.toNat ≤ 1 := small
    have limit : UInt32.size = 4294967296 := rfl
    rw [size, capped] at capped_all
    omega
  have few := (named_bound d name).trans all
  obtain ⟨legal, _⟩ := within_printings fine name
  refine ⟨fun listed => ?_, fun _ => few⟩
  have bound := legal listed
  rcases Nat.eq_zero_or_pos r.maxCopies.toNat with zero | some
  · rwa [zero, Nat.mul_zero] at bound ⊢
  · omega

end Legal

theorem reached_entries {es : List Entry} {n : Nat} {d : Deck} (reached : Reached n d) (counted : ∀ e ∈ es, e.count ≠ 0)
    (distinct : (es.map Entry.id).Nodup) (absent : ∀ e ∈ es, d.position? e.id = none) :
    ∃ full, Reached n full ∧ full.entries = d.entries ++ es := by
  induction es generalizing d with
  | nil => exact ⟨d, reached, (List.append_nil _).symm⟩
  | cons e rest ih =>
    obtain ⟨fresh, distinct⟩ := List.nodup_cons.1 distinct
    have next : Reached n (d.append e.card e.count) :=
      reached_append reached (counted e List.mem_cons_self) (absent e List.mem_cons_self)
    obtain ⟨full, last, entries⟩ := ih next (fun other member => counted other (List.mem_cons_of_mem e member)) distinct
      (absent_append fresh absent)
    exact ⟨full, last, by simp [entries, append]⟩

section Printings

def printing (id : CardId) (name format : String) (l : Legality) : Card :=
  (Card.ofFaces id ⟨"", "", "", ""⟩ .uncommon [Face.ofName name]).withLegality format l

def forest (format : String) : Card :=
  (Card.ofFaces "forest" ⟨"", "", "", ""⟩ .basicLand
    [{ Face.ofName "Forest" with supertypes := .ofList ["Basic"] }]).withLegality format .legal

def rings : List Entry :=
  [⟨printing "a" "Sol Ring" "vintage" .restricted, 1⟩, ⟨printing "b" "Sol Ring" "vintage" .restricted, 1⟩]

def twoRings (lands : UInt32) : List Entry := rings ++ if lands = 0 then [] else [⟨forest "vintage", lands⟩]

theorem two_rings_copies (lands : UInt32) : copiesIn (twoRings lands) = 2 + lands.toNat := by
  unfold twoRings rings copiesIn
  split
  · rename_i none
    subst none
    rfl
  · simp; omega

theorem two_rings_reached (lands : UInt32) : ∃ d, Reached 0 d ∧ d.entries = twoRings lands := by
  have counted : ∀ e ∈ twoRings lands, e.count ≠ 0 := by
    unfold twoRings rings
    split
    · decide
    · rename_i some
      simpa using some
  have distinct : ((twoRings lands).map Entry.id).Nodup := by
    unfold twoRings rings
    split <;> simp only [List.map_append, List.map_cons, List.map_nil, Entry.id] <;> decide
  exact reached_entries .start counted distinct fun e _ => rfl

theorem two_rings_fine {d : Deck} {r : FormatRules} {lands : UInt32} (held : d.entries = twoRings lands)
    (size : d.sizeProblem? r = none) : d.problems "vintage" r = [] := by
  refine no_problems_iff.2 ⟨size, fun e member => entry_fine_iff.2 ?_⟩
  rw [held, twoRings, List.mem_append] at member
  rcases member with ring | land
  · have single : e.card.legalityIn "vintage" = .restricted ∧ e.count = 1 := by
      rcases List.mem_pair.1 ring with rfl | rfl <;> exact ⟨by decide, rfl⟩
    exact .inr ⟨single.1, single.2 ▸ UInt32.le_refl 1⟩
  · split at land
    · cases land
    · obtain rfl := List.mem_singleton.1 land
      have basic : (forest "vintage").legalityIn "vintage" = .legal ∧ (forest "vintage").anyNumber = true := by decide
      exact .inl ⟨basic.1, fun few => absurd (basic.2.symm.trans few) (by decide)⟩

theorem two_rings_named {d : Deck} {lands : UInt32} (held : d.entries = twoRings lands) :
    d.named "Sol Ring" = rings := by
  have own : ∀ e ∈ rings, decide (e.card.name = "Sol Ring") = true := by decide
  have other : (forest "vintage").name ≠ "Sol Ring" := by decide
  rw [named, held, twoRings, List.filter_append, List.filter_eq_self.2 own]
  split <;> simp [other]

theorem two_rings_over {r : FormatRules} (large : ¬ (r.exactSize = true ∧ r.deckSize ≤ 1)) :
    ∃ n d, Reached n d ∧ d.problems "vintage" r = [] ∧ ¬ d.Within "vintage" r "Sol Ring" 1 := by
  have most := r.deckSize.toNat_lt_size
  obtain ⟨lands, number⟩ : ∃ lands : UInt32, lands.toNat = r.deckSize.toNat - 2 :=
    ⟨UInt32.ofNat (r.deckSize.toNat - 2), UInt32.toNat_ofNat_of_lt' (by omega)⟩
  obtain ⟨d, reached, held⟩ := two_rings_reached lands
  have copies : d.copies.toNat = capped (2 + (r.deckSize.toNat - 2)) := by
    rw [Deck.copies, total_capped, held, two_rings_copies, number]
  have limit : UInt32.size = 4294967296 := rfl
  rw [capped] at copies
  have size : d.sizeProblem? r = none := by
    refine size_fine_iff.2 ⟨UInt32.le_iff_toNat_le.2 (by omega), fun exact => UInt32.toNat_inj.1 ?_⟩
    have two : ¬ r.deckSize.toNat ≤ 1 := fun small => large ⟨exact, UInt32.le_iff_toNat_le.2 small⟩
    omega
  refine ⟨0, d, reached, two_rings_fine held size, fun within => ?_⟩
  have bound := within.2
  rw [two_rings_named held] at bound
  exact absurd (bound (by decide)) (by decide)

/-- The rules bound a card by the number of its printings in the deck. They bound it by their own number only
    where a deck has no more than one card. -/
theorem copies_by_printing (r : FormatRules) :
    (∀ (d : Deck) (format : String), d.problems format r = [] →
      ∀ name, d.Within format r name (d.named name).length) ∧
    ((∀ n d, Reached n d → ∀ format, d.problems format r = [] → ∀ name, d.Within format r name 1) ↔
      r.exactSize = true ∧ r.deckSize ≤ 1) := by
  refine ⟨fun d format fine name => within_printings fine name, fun kept => ?_, ?_⟩
  · by_contra large
    obtain ⟨n, d, reached, fine, beyond⟩ := two_rings_over large
    exact beyond (kept n d reached _ fine _)
  · rintro ⟨exact, small⟩ n d _ format fine name
    exact within_lone_card fine exact small name

-- Eight copies where four are allowed.
theorem bolts_unnoticed :
    let d := ((empty.after (.add (printing "a" "Lightning Bolt" "modern" .legal) 4)).after
      (.add (printing "b" "Lightning Bolt" "modern" .legal) 4)).after (.add (forest "modern") 52)
    d.problems "modern" .constructed = [] ∧ copiesIn (d.named "Lightning Bolt") = 8 ∧
      d.Within "modern" .constructed "Lightning Bolt" 2 ∧ ¬ d.Within "modern" .constructed "Lightning Bolt" 1 := by
  intro d
  have fine : d.problems "modern" .constructed = [] := by decide +kernel
  have copies : copiesIn (d.named "Lightning Bolt") = 8 := by decide +kernel
  have legal : ∀ e ∈ d.named "Lightning Bolt", e.card.legalityIn "modern" = .legal ∧ e.card.anyNumber = false := by
    decide +kernel
  have printings : (d.named "Lightning Bolt").length = 2 := by decide +kernel
  have within := (copies_by_printing .constructed).1 d "modern" fine "Lightning Bolt"
  rw [printings] at within
  refine ⟨fine, copies, within, fun kept => ?_⟩
  have bound := kept.1 legal
  rw [copies] at bound
  exact absurd bound (by decide)

end Printings

end Deckwright.Deck
