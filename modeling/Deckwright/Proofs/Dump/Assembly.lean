import Mathlib.Data.List.Induction
import Deckwright.Dump.Assembly
set_option autoImplicit false

namespace Deckwright

namespace Printing

def apart (p q : Printing) : Bool := q.joinKey = none || q.joinKey ≠ p.joinKey

-- The printings that open a slot, in order: none of their key stands in front of them.
def openers : List Printing → List Printing
  | [] => []
  | p :: rest => p :: (openers rest).filter (apart p)

theorem mem_of_openers {ps : List Printing} {p : Printing} (member : p ∈ openers ps) : p ∈ ps := by
  induction ps with
  | nil => cases member
  | cons q rest ih =>
    rcases List.mem_cons.1 member with rfl | later
    · exact List.mem_cons_self
    · exact List.mem_cons_of_mem q (ih (List.mem_filter.1 later).1)

def keyed (key : String) (ps : List Printing) : List Printing := ps.filter fun p => p.joinKey = some key

theorem keyed_concat (ps : List Printing) {p : Printing} {key : String} (joins : p.joinKey = some key) :
    keyed key (ps ++ [p]) = keyed key ps ++ [p] := by
  simp [keyed, joins]

theorem apart_of_other {p q : Printing} {key : String} (joins : q.joinKey = some key) :
    apart p q = true ↔ p.joinKey ≠ some key := by
  simpa [apart, joins] using ne_comm

theorem openers_apart (ps : List Printing) : (openers ps).Pairwise fun p q => apart p q := by
  induction ps with
  | nil => exact .nil
  | cons p rest ih => exact .cons (fun q member => (List.mem_filter.1 member).2) (ih.filter _)

theorem apart_behind {p q : Printing} (apart_from : apart q p) (rest : List Printing) :
    (rest.filter (apart q)).all (apart · p) = rest.all (apart · p) := by
  rw [List.all_filter]
  congr 1
  funext r
  cases taken : apart q r with
  | true => rfl
  | false =>
    have same : ¬ r.joinKey = none ∧ r.joinKey = q.joinKey := by simpa [apart] using taken
    rw [show apart r p = apart q p by rw [apart, apart, same.2], apart_from]
    rfl

theorem openers_concat (ps : List Printing) (p : Printing) :
    openers (ps ++ [p]) = openers ps ++ if (openers ps).all (apart · p) then [p] else [] := by
  induction ps with
  | nil => rfl
  | cons q rest ih =>
    rw [List.cons_append, openers, ih, List.filter_append, openers, List.cons_append, List.all_cons]
    cases front : apart q p with
    | true =>
      rw [apart_behind front, Bool.true_and]
      split <;> simp [front]
    | false =>
      rw [Bool.false_and]
      split <;> simp [front]

theorem openers_all (ps : List Printing) (p : Printing) :
    (openers ps).all (apart · p) = ps.all (apart · p) := by
  induction ps with
  | nil => rfl
  | cons q rest ih =>
    rw [openers, List.all_cons, List.all_cons]
    cases front : apart q p with
    | true => rw [apart_behind front, ih]
    | false => rw [Bool.false_and, Bool.false_and]

end Printing

namespace Slot

def opened (ps : List Printing) (p : Printing) : Slot :=
  match p.joinKey with
  | none => .single p
  | some key => .faces key (Printing.keyed key ps)

theorem opened_single (ps : List Printing) {p : Printing} (keyless : p.joinKey = none) :
    opened ps p = .single p := by
  rw [opened, keyless]

theorem opened_faces (ps : List Printing) {p : Printing} {key : String} (joins : p.joinKey = some key) :
    opened ps p = .faces key (Printing.keyed key ps) := by
  rw [opened, joins]

theorem opened_concat (ps : List Printing) {p q : Printing} (apart : Printing.apart q p) :
    opened (ps ++ [p]) q = opened ps q := by
  cases joins : q.joinKey with
  | none => rw [opened_single _ joins, opened_single _ joins]
  | some key =>
    have other : p.joinKey ≠ some key := fun same => (Printing.apart_of_other same).1 apart joins
    rw [opened_faces _ joins, opened_faces _ joins]
    simp [Printing.keyed, other]

theorem put_face_opened (ps : List Printing) {p : Printing} {key : String} (joins : p.joinKey = some key)
    {firsts : List Printing} (apart : firsts.Pairwise fun q r => Printing.apart q r) :
    putFace key p (firsts.map (opened ps)) =
      firsts.map (opened (ps ++ [p])) ++ if firsts.all (Printing.apart · p) then [.faces key [p]] else [] := by
  induction firsts with
  | nil => rfl
  | cons q rest ih =>
    obtain ⟨behind, later⟩ := List.pairwise_cons.1 apart
    rw [List.map_cons, List.map_cons, List.all_cons]
    by_cases same : q.joinKey = some key
    · have met : Printing.apart q p = false := by simpa [same] using Printing.apart_of_other (p := q) joins
      have others : rest.map (opened (ps ++ [p])) = rest.map (opened ps) := by
        refine List.map_congr_left fun r member => opened_concat ps ?_
        exact (Printing.apart_of_other joins).2 fun again =>
          (Printing.apart_of_other again).1 (behind r member) same
      rw [opened_faces ps same, opened_faces (ps ++ [p]) same, Printing.keyed_concat ps joins, putFace, if_pos rfl,
        others, met, Bool.false_and]
      simp
    · have far : Printing.apart q p = true := (Printing.apart_of_other joins).2 same
      have passed : putFace key p (opened ps q :: rest.map (opened ps)) =
          opened ps q :: putFace key p (rest.map (opened ps)) := by
        cases keyed : q.joinKey with
        | none => rw [opened_single ps keyed, putFace]
        | some k =>
          have other : k ≠ key := fun old => same (by rw [keyed, old])
          rw [opened_faces ps keyed, putFace, if_neg other]
      rw [passed, ih later, opened_concat ps far, far, Bool.true_and, List.cons_append]

theorem of_printings_opened (ps : List Printing) :
    ofPrintings ps = (Printing.openers ps).map (opened ps) := by
  induction ps using List.reverseRecOn with
  | nil => rfl
  | append_singleton ps p ih =>
    have last : ofPrintings (ps ++ [p]) = put (ofPrintings ps) p := by simp [ofPrintings]
    rw [last, ih, put, Printing.openers_concat, List.map_append]
    cases joins : p.joinKey with
    | none =>
      have far (q : Printing) : Printing.apart q p = true := by simp [Printing.apart, joins]
      have same : (Printing.openers ps).map (opened (ps ++ [p])) = (Printing.openers ps).map (opened ps) :=
        List.map_congr_left fun q _ => opened_concat ps (far q)
      simp [same, far, opened_single _ joins]
    | some key =>
      dsimp only
      rw [put_face_opened ps joins (Printing.openers_apart ps), Printing.openers_all]
      split
      · rename_i new
        have none_yet : Printing.keyed key ps = [] :=
          List.filter_eq_nil_iff.2 fun q member same =>
            (Printing.apart_of_other joins).1 (List.all_eq_true.1 new q member) (of_decide_eq_true same)
        rw [List.map_singleton, opened_faces _ joins, Printing.keyed_concat ps joins, none_yet, List.nil_append]
      · rfl

structure Holds (ps : List Printing) (slot : Slot) : Prop where
  keyed : ∀ p ∈ slot.printings, p.joinKey = slot.key?
  among : slot.printings ⊆ ps

theorem of_printings_holds (ps : List Printing) : ∀ slot ∈ ofPrintings ps, slot.Holds ps := by
  rw [of_printings_opened]
  intro slot member
  obtain ⟨p, opens, rfl⟩ := List.mem_map.1 member
  cases joins : p.joinKey with
  | none =>
    rw [opened_single ps joins]
    exact ⟨by simpa [printings, key?] using joins, by simpa [printings] using Printing.mem_of_openers opens⟩
  | some key =>
    rw [opened_faces ps joins]
    exact ⟨fun q inside => of_decide_eq_true (List.mem_filter.1 inside).2, List.filter_sublist.subset⟩

end Slot

theorem Card.with_legalities_same (c : Card) (ls : List (String × Legality)) :
    (c.withLegalities ls).id = c.id ∧ (c.withLegalities ls).faces = c.faces ∧
      (c.withLegalities ls).expansion = c.expansion := by
  induction ls generalizing c with
  | nil => exact ⟨rfl, rfl, rfl⟩
  | cons l rest ih => exact ih (c.withLegality l.1 l.2)

namespace Printing

theorem mem_in_order {ps : List Printing} {p : Printing} : p ∈ inOrder ps ↔ p ∈ ps := List.mem_mergeSort

theorem split_from_cards {side : Nat} {ps : List Printing} {c : Card} (member : c ∈ splitFrom side ps) :
    ∃ p ∈ ps, ∃ k : Nat, c = p.toCard s!"{p.ownId}-{k}" .normal := by
  induction ps generalizing side with
  | nil => cases member
  | cons p rest ih =>
    rcases List.mem_cons.1 member with rfl | later
    · exact ⟨p, List.mem_cons_self, side, rfl⟩
    · obtain ⟨q, inside, k, same⟩ := ih later
      exact ⟨q, List.mem_cons_of_mem p inside, k, same⟩

theorem joined_parts (id : CardId) (layout : Layout) (first : Printing) (others : List Printing) :
    (joined id layout first others).id = id ∧
      (joined id layout first others).faces = (first :: others).map (fun p => p.face.completed) ∧
      (joined id layout first others).expansion = first.expansion := by
  obtain ⟨same, faces, expansion⟩ := Card.with_legalities_same
    (Card.ofFaces id first.expansion first.rarity ((first :: others).map face)) first.legality
  refine ⟨same, faces.trans ?_, expansion⟩
  rw [Card.ofFaces, List.map_map]
  rfl

end Printing

/-- A card of one printing without an id of its own, which makes one of its own set, number and name. -/
structure Card.Lone (c : Card) (p : Printing) : Prop where
  single : c.faces.length = 1
  expansion : c.expansion = p.expansion
  id : ∃ ending, c.id = p.ownId ++ ending

/-- A card of several printings, of which this is the first. -/
structure Card.Joined (c : Card) (p : Printing) : Prop where
  several : 2 ≤ c.faces.length
  expansion : c.expansion = p.expansion
  id : ∃ key, p.joinKey = some key ∧ c.id = Printing.idOfKey key

namespace Slot

theorem cards_two {key : String} {p q : Printing} (order : p.order ≤ q.order)
    (whole : Printing.faceProblem? p [q] = none) :
    (Slot.faces key [p, q]).cards = ([Printing.joined (Printing.idOfKey key) p.layout p [q]], []) := by
  have sorted : Printing.inOrder [p, q] = [p, q] := List.mergeSort_of_pairwise (by simpa using order)
  rw [cards, sorted]
  dsimp only
  rw [whole]

theorem cards_origin {ps : List Printing} {slot : Slot} (holds : slot.Holds ps)
    (idless : ∀ p ∈ ps, p.id = none) {c : Card} (member : c ∈ slot.cards.1) :
    ∃ p ∈ slot.printings, c.Lone p ∨ c.Joined p := by
  have lone {p : Printing} {id : CardId} {layout : Layout} (own : ∃ ending, id = p.ownId ++ ending) :
      (p.toCard id layout).Lone p := by
    obtain ⟨same, faces, expansion⟩ := Printing.joined_parts id layout p []
    exact ⟨congrArg List.length faces, expansion, own.imp fun _ => same.trans⟩
  cases slot with
  | single p =>
    have none : p.id = none := idless p (holds.among List.mem_cons_self)
    refine ⟨p, List.mem_cons_self, .inl ?_⟩
    rw [List.mem_singleton.1 member]
    exact lone ⟨"", by rw [none, Option.getD_none, String.append_empty]⟩
  | faces key qs =>
    have inside {p : Printing} (member : p ∈ Printing.inOrder qs) : p ∈ qs := Printing.mem_in_order.1 member
    rw [cards] at member
    cases order : Printing.inOrder qs with
    | nil =>
      rw [order] at member
      cases member
    | cons first others =>
      rw [order] at member inside
      dsimp only at member
      cases problem : Printing.faceProblem? first others with
      | none =>
        rw [problem] at member
        obtain ⟨same, faces, expansion⟩ := Printing.joined_parts (Printing.idOfKey key) first.layout first others
        refine ⟨first, inside List.mem_cons_self, .inr ?_⟩
        rw [List.mem_singleton.1 member]
        refine ⟨?_, expansion, key, holds.keyed first (inside List.mem_cons_self), same⟩
        rw [faces, List.length_map, List.length_cons]
        cases others with
        | nil => cases problem
        | cons second rest => exact Nat.succ_le_succ (Nat.succ_le_succ (Nat.zero_le _))
      | some problem' =>
        rw [problem] at member
        obtain ⟨p, among, k, same⟩ := Printing.split_from_cards member
        exact ⟨p, inside among, .inl (same ▸ lone ⟨s!"-{k}", String.append_assoc⟩)⟩

end Slot

end Deckwright
