import Deckwright.Deck.Hand
import Deckwright.Proofs.Deck.Count
import Mathlib.Data.List.Basic
import Mathlib.Data.List.Induction
set_option autoImplicit false

namespace Deckwright

namespace ChaCha.Stream

theorem swap_perm {α : Type} (as : Array α) (i j : Nat) : (as.swapIfInBounds i j).Perm as := by
  rw [Array.swapIfInBounds_def]
  split
  · split
    · exact Array.swap_perm _ _
    · exact .refl as
  · exact .refl as

theorem shuffle_from_perm {α : Type} (i : Nat) (as : Array α) (s : Stream) : (shuffleFrom i as s).1.Perm as := by
  induction i generalizing as s with
  | zero => exact .refl as
  | succ i ih =>
    -- Whatever number is drawn, two elements change places.
    rw [shuffleFrom]
    generalize s.below (i + 2) = drawn
    obtain ⟨j, rest⟩ := drawn
    exact (ih (as.swapIfInBounds (i + 1) j) rest).trans (swap_perm as (i + 1) j)

theorem shuffle_perm {α : Type} (s : Stream) (as : List α) : (s.shuffle as).1.Perm as :=
  (shuffle_from_perm (as.length - 1) as.toArray s).toList

end ChaCha.Stream

namespace SampleHand

inductive Play where
  | deal (size : Nat)
  | mulligan
  | draw

structure Table where
  hand : SampleHand
  dealt : Option (List Card)

def Table.next (t : Table) : Play → Table
  | .deal size => ⟨t.hand.deal size, some (t.hand.deal size).hand⟩
  | .mulligan => ⟨t.hand.mulligan, some t.hand.mulligan.hand⟩
  | .draw => { t with hand := t.hand.draw.1 }

def table (d : Deck) (seed : UInt64) (plays : List Play) : Table := plays.foldl Table.next ⟨ofDeck d seed, none⟩

def asked (plays : List Play) : Nat :=
  plays.foldl
    (fun size play =>
      match play with
      | .deal size => size
      | .mulligan => size - 1
      | .draw => size)
    openingSize

def pile (es : List Entry) : List Card := es.flatMap fun e => List.replicate e.count.toNat e.card

theorem pile_length (es : List Entry) : (pile es).length = Deck.copiesIn es := by
  rw [pile, List.length_flatMap]
  simp only [List.length_replicate, Deck.copiesIn]

theorem pile_count {es : List Entry} (distinct : (es.map Entry.id).Nodup) (id : CardId) :
    (pile es).countP (fun c => c.id = id) = (Deck.countOf (es.find? fun e => e.id = id)).toNat := by
  induction es with
  | nil => rfl
  | cons e rest ih =>
    rw [List.map_cons, List.nodup_cons] at distinct
    obtain ⟨fresh, later⟩ := distinct
    have split : pile (e :: rest) = List.replicate e.count.toNat e.card ++ pile rest := rfl
    rw [split, List.countP_append, List.countP_replicate, ih later]
    by_cases own : e.id = id
    · have away : ∀ other ∈ rest, other.id ≠ id := fun other member same =>
        fresh (own.trans same.symm ▸ List.mem_map_of_mem member)
      have card : decide (e.card.id = id) = true := decide_eq_true own
      rw [List.find?_cons_of_pos (by simpa using own), Deck.find_others away, if_pos card]
      rfl
    · have card : ¬ decide (e.card.id = id) = true := fun hit => own (of_decide_eq_true hit)
      rw [List.find?_cons_of_neg (by simpa using own), if_neg card, Nat.zero_add]

-- The library is the pile in some order, no more is drawn than there is, and the last hand was as large
-- as was asked for, if there were so many cards.
structure Fair (cards : List Card) (t : Table) : Prop where
  library : t.hand.library.Perm cards
  drawn : t.hand.drawn ≤ t.hand.library.length
  dealt : ∀ last, t.dealt = some last → last.length = min t.hand.handSize cards.length

section Plays

variable {cards : List Card} {h : SampleHand} {t : Table}

theorem hand_length (enough : h.drawn ≤ h.library.length) : h.hand.length = h.drawn :=
  List.length_take_of_le enough

theorem deal_library (h : SampleHand) (size : Nat) : (h.deal size).library.Perm h.library :=
  h.stream.shuffle_perm h.library

theorem deal_drawn (h : SampleHand) (size : Nat) : (h.deal size).drawn = min size h.library.length := by
  rw [← (deal_library h size).length_eq]
  rfl

theorem deal_hand (h : SampleHand) (size : Nat) : (h.deal size).hand.length = min size h.library.length := by
  have enough : (h.deal size).drawn ≤ (h.deal size).library.length := by
    rw [deal_drawn, (deal_library h size).length_eq]
    exact Nat.min_le_right size _
  rw [hand_length enough, deal_drawn]

theorem draw_some (more : h.drawn < h.library.length) :
    h.draw = ({ h with drawn := h.drawn + 1 }, some h.library[h.drawn]) := by
  rw [draw, if_pos more, List.getElem?_eq_getElem more]

theorem draw_none (spent : h.library.length ≤ h.drawn) : h.draw = (h, none) := by
  rw [draw, if_neg (Nat.not_lt.2 spent)]

theorem fair_deal (fair : Fair cards t) (size : Nat) :
    Fair cards ⟨t.hand.deal size, some (t.hand.deal size).hand⟩ where
  library := (deal_library t.hand size).trans fair.library
  drawn := by
    rw [deal_drawn, (deal_library t.hand size).length_eq]
    exact Nat.min_le_right size _
  dealt last held := by
    obtain rfl := Option.some.inj held
    rw [deal_hand, fair.library.length_eq]
    rfl

theorem fair_draw (fair : Fair cards t) : Fair cards { t with hand := t.hand.draw.1 } := by
  by_cases more : t.hand.drawn < t.hand.library.length
  · rw [draw_some more]
    exact ⟨fair.library, more, fair.dealt⟩
  · rw [draw_none (Nat.le_of_not_lt more)]
    exact fair

theorem fair_next (fair : Fair cards t) (play : Play) : Fair cards (t.next play) := by
  cases play with
  | deal size => exact fair_deal fair size
  | mulligan => exact fair_deal fair _
  | draw => exact fair_draw fair

end Plays

variable (d : Deck) (seed : UInt64)

theorem table_next (plays : List Play) (play : Play) :
    table d seed (plays ++ [play]) = (table d seed plays).next play := List.foldl_concat ..

theorem table_fair (plays : List Play) : Fair (pile d.entries) (table d seed plays) := by
  induction plays using List.reverseRecOn with
  | nil => exact ⟨.refl _, Nat.zero_le _, fun _ held => nomatch held⟩
  | append_singleton plays play ih =>
    rw [table_next]
    exact fair_next ih play

theorem draw_size (h : SampleHand) : h.draw.1.handSize = h.handSize := by
  rw [draw]
  split <;> rfl

theorem hand_size_asked (plays : List Play) : (table d seed plays).hand.handSize = asked plays := by
  induction plays using List.reverseRecOn with
  | nil => rfl
  | append_singleton plays play ih =>
    rw [table_next, asked, List.foldl_concat]
    cases play with
    | deal size => rfl
    | mulligan => exact congrArg (fun size => size - 1) ih
    | draw => exact (draw_size _).trans ih

theorem dealt_length {plays : List Play} {last : List Card} (held : (table d seed plays).dealt = some last) :
    last.length = min (asked plays) (Deck.copiesIn d.entries) := by
  rw [(table_fair d seed plays).dealt last held, hand_size_asked, pile_length]

theorem asked_mulligans (plays : List Play) (size k : Nat) :
    asked (plays ++ .deal size :: List.replicate k .mulligan) = size - k := by
  induction k with
  | zero => exact List.foldl_concat ..
  | succ k ih =>
    rw [List.replicate_succ', ← List.cons_append, ← List.append_assoc, asked, List.foldl_concat]
    exact congrArg (fun size => size - 1) ih

theorem dealt_mulligans (plays : List Play) (size k : Nat) :
    let t := table d seed (plays ++ .deal size :: List.replicate k .mulligan)
    t.dealt = some t.hand.hand := by
  cases k with
  | zero => rw [List.replicate_zero, table_next]; rfl
  | succ k => rw [List.replicate_succ', ← List.cons_append, ← List.append_assoc, table_next]; rfl

/-- Whatever is asked for, the library is the deck, each card in all its copies, and the hand its beginning. A
    draw puts one card more behind the hand, as long as there is one. -/
theorem copies_dealt (plays : List Play) :
    let h := (table d seed plays).hand
    h.library.Perm (pile d.entries) ∧
      (∀ n, Deck.Reached n d → ∀ id, h.library.countP (fun c => c.id = id) = (d.count id).toNat) ∧
      h.drawn ≤ h.library.length ∧ h.hand <+: h.library ∧ h.hand.length = h.drawn ∧
      h.hand.length + h.remaining = Deck.copiesIn d.entries ∧
      (h.draw.2.isSome = true ↔ 0 < h.remaining) ∧
      (∀ card, h.draw.2 = some card → h.draw.1.hand = h.hand ++ [card]) ∧
      (h.draw.2 = none → h.draw.1 = h) := by
  intro h
  have fair := table_fair d seed plays
  have length := hand_length fair.drawn
  refine ⟨fair.library, fun n reached id => ?_, fair.drawn, List.take_prefix _ _, length, ?_, ?_⟩
  · have listed := Deck.reached_listed reached
    have distinct := listed.distinct
    rw [← Deck.entry_ids] at distinct
    rw [fair.library.countP_eq, pile_count distinct, Deck.count_found listed]
  · rw [length, remaining, ← pile_length, ← fair.library.length_eq]
    exact Nat.add_sub_cancel' fair.drawn
  · by_cases more : h.drawn < h.library.length
    · rw [draw_some more]
      refine ⟨iff_of_true rfl (Nat.sub_pos_of_lt more), fun card told => ?_, fun missing => nomatch missing⟩
      obtain rfl := Option.some.inj told
      exact List.take_succ_eq_append_getElem more
    · rw [draw_none (Nat.le_of_not_lt more)]
      refine ⟨iff_of_false Bool.false_ne_true fun left => more (Nat.lt_of_sub_pos left), fun card told => ?_,
        fun _ => rfl⟩
      cases told

theorem bears_dealt :
    let bear := Card.ofFaces "bear" ⟨"", "", "", ""⟩ .common [Face.ofName "Bear"]
    let bull := Card.ofFaces "bull" ⟨"", "", "", ""⟩ .common [Face.ofName "Bull"]
    let d := (Deck.empty.after (.add bear 2)).after (.add bull 1)
    let h := (table d 7 [.deal 6, .draw, .mulligan, .deal 1]).hand
    h.library.countP (fun c => c.id = "bear") = 2 ∧ h.hand.length + h.remaining = 3 ∧ h.draw.2.isSome = true := by
  intro bear bull d h
  obtain ⟨_, counts, _, _, _, all, drawn, _⟩ := copies_dealt d 7 [.deal 6, .draw, .mulligan, .deal 1]
  have held : (d.count "bear").toNat = 2 := by decide +kernel
  have copies : Deck.copiesIn d.entries = 3 := by decide +kernel
  have total : h.hand.length + h.remaining = 3 := all.trans copies
  have dealt : (table d 7 [.deal 6, .draw, .mulligan, .deal 1]).dealt = some h.hand := rfl
  have one := dealt_length d 7 dealt
  have asked_one : asked [.deal 6, .draw, .mulligan, .deal 1] = 1 := rfl
  rw [copies, asked_one] at one
  have left : 0 < h.remaining := by
    rw [one] at total
    omega
  exact ⟨(counts _ (.change _ (.change _ .start)) "bear").trans held, total, drawn.2 left⟩

/-- A mulligan asks for one card less than was asked for before. The next hand has one card less than the last
    exactly if no more was asked for than there is, or there is nothing; and k mulligans cost k cards on the
    same terms, or if nothing is left to ask for. -/
theorem mulligans_counted :
    let all := Deck.copiesIn d.entries
    (∀ plays last, (table d seed plays).dealt = some last →
      let next := (table d seed plays).hand.mulligan.hand
      last.length = min (asked plays) all ∧ next.length = min (asked plays - 1) all ∧
      (next.length = last.length - 1 ↔ asked plays ≤ all ∨ all = 0)) ∧
    ∀ plays size k,
      let last := (table d seed (plays ++ .deal size :: List.replicate k .mulligan)).hand.hand
      last.length = min (size - k) all ∧
      (last.length = min size all - k ↔ size ≤ all ∨ all = 0 ∨ size ≤ k ∨ k = 0) := by
  intro all
  refine ⟨fun plays last held => ?_, fun plays size k => ?_⟩
  · have before : last.length = min (asked plays) all := dealt_length d seed held
    have after : (table d seed plays).hand.mulligan.hand.length = min (asked plays - 1) all := by
      have dealt : (table d seed (plays ++ [.mulligan])).dealt = some (table d seed plays).hand.mulligan.hand := by
        rw [table_next]
        rfl
      rw [dealt_length d seed dealt, asked, List.foldl_concat]
      rfl
    refine ⟨before, after, ?_⟩
    rw [before, after]
    omega
  · have length := dealt_length d seed (dealt_mulligans d seed plays size k)
    rw [asked_mulligans] at length
    refine ⟨length, ?_⟩
    rw [length]
    omega

-- Five cards are asked for where there are two, so there are two again after a mulligan.
theorem bears_again :
    let bear := Card.ofFaces "bear" ⟨"", "", "", ""⟩ .common [Face.ofName "Bear"]
    let d := Deck.empty.after (.add bear 2)
    let h := (table d 1 [.deal 5]).hand
    h.hand.length = 2 ∧ h.mulligan.hand.length = 2 ∧ ¬ h.mulligan.hand.length = h.hand.length - 1 := by
  intro bear d h
  have copies : Deck.copiesIn d.entries = 2 := by decide +kernel
  obtain ⟨last, next, law⟩ := (mulligans_counted d 1).1 [.deal 5] h.hand rfl
  rw [copies] at last next law
  exact ⟨last, next, fun costs => absurd (law.1 costs) (by decide)⟩

end SampleHand

end Deckwright
