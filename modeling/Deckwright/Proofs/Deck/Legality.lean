import Deckwright.Deck.Format
import Deckwright.Proofs.Deck.View
import Deckwright.Proofs.Text.Search
import Mathlib.Data.List.Forall2
set_option autoImplicit false

namespace Deckwright

section Entries

variable (format : String) (r : FormatRules) (e : Entry)

def Entry.Lawful : Prop :=
  (e.card.legalityIn format = .legal ∧ (e.count ≤ r.maxCopies ∨ e.card.anyNumber = true)) ∨
    (e.card.legalityIn format = .restricted ∧ e.count = 1)

instance : Decidable (e.Lawful format r) := inferInstanceAs (Decidable (_ ∨ _))

inductive Entry.Breaks : Problem → Prop where
  | banned (out : e.card.legalityIn format = .banned) : Breaks (.banned e.card.name)
  | notLegal (out : e.card.legalityIn format = .notLegal) : Breaks (.notLegal e.card.name)
  | restricted (one : e.card.legalityIn format = .restricted) (more : 1 < e.count) :
    Breaks (.restricted e.card.name e.count)
  | tooMany (legal : e.card.legalityIn format = .legal) (limited : e.card.anyNumber = false)
    (more : r.maxCopies < e.count) : Breaks (.tooMany e.card.name e.count r.maxCopies)

end Entries

section Exempt

theorem Text.named_iff {s word : String} (small : asciiLower word.toList = word.toList) :
    eqAsciiCase s word = true ↔ asciiLowered s = word := by
  rw [eqAsciiCase, beq_iff_eq, small, asciiLowered, ← String.toList_inj, String.toList_ofList]

theorem Card.any_number_iff (id : CardId) (expansion : Expansion) (rarity : Rarity) (faces : List Face) :
    (Card.ofFaces id expansion rarity faces).anyNumber = true ↔
      ∃ f ∈ faces, (∃ t ∈ f.supertypes.toList, Text.asciiLowered t = "basic") ∨
        Card.anyNumberPhrase <:+: Text.lower f.rules.toList := by
  rw [Card.ofFaces]
  dsimp only
  rw [List.any_map, List.any_eq_true]
  refine exists_congr fun f => and_congr_right fun _ => ?_
  have basic : f.hasSupertype "basic" = true ↔ ∃ t ∈ f.supertypes.toList, Text.asciiLowered t = "basic" := by
    rw [Face.hasSupertype, List.any_eq_true]
    exact exists_congr fun t => and_congr_right fun _ => Text.named_iff (by decide)
  rw [← basic, ← Text.occurs_iff, ← Bool.or_eq_true]
  rfl

end Exempt

namespace Deck

variable {d : Deck} {format : String} {r : FormatRules} {e : Entry}

def Sized (d : Deck) (r : FormatRules) : Prop :=
  if r.exactSize then d.copies = r.deckSize else r.deckSize ≤ d.copies

inductive Missized (d : Deck) (r : FormatRules) : Problem → Prop where
  | wrong (exact : r.exactSize = true) (other : d.copies ≠ r.deckSize) : Missized d r (.wrongSize d.copies r.deckSize)
  | few (least : r.exactSize = false) (less : d.copies < r.deckSize) : Missized d r (.tooFew d.copies r.deckSize)

theorem size_fine_iff : d.sizeProblem? r = none ↔ r.deckSize ≤ d.copies ∧ (r.exactSize = true → d.copies = r.deckSize) := by
  unfold sizeProblem?
  rw [← UInt32.not_lt]
  by_cases exact : r.exactSize = true <;> by_cases same : d.copies = r.deckSize <;> simp [exact, same]

theorem entry_fine_iff : entryProblem? format r e = none ↔
    (e.card.legalityIn format = .legal ∧ (e.card.anyNumber = false → e.count ≤ r.maxCopies)) ∨
      (e.card.legalityIn format = .restricted ∧ e.count ≤ 1) := by
  unfold entryProblem?
  rw [← UInt32.not_lt, ← UInt32.not_lt]
  cases e.card.legalityIn format <;> cases e.card.anyNumber <;> simp

theorem no_problems_iff : d.problems format r = [] ↔
    d.sizeProblem? r = none ∧ ∀ e ∈ d.entries, entryProblem? format r e = none := by
  rw [problems, List.append_eq_nil_iff, Option.toList_eq_nil_iff, List.filterMap_eq_nil_iff]

theorem sized_iff : d.Sized r ↔ d.sizeProblem? r = none := by
  rw [size_fine_iff, Sized]
  by_cases exact : r.exactSize = true
  · rw [if_pos exact]
    exact ⟨fun same => ⟨same ▸ UInt32.le_refl _, fun _ => same⟩, fun fine => fine.2 exact⟩
  · rw [if_neg exact]
    exact ⟨fun most => ⟨most, fun wanted => absurd wanted exact⟩, And.left⟩

theorem size_told {p : Problem} (told : d.sizeProblem? r = some p) : d.Missized r p := by
  rw [sizeProblem?] at told
  by_cases exact : r.exactSize = true
  · by_cases same : d.copies = r.deckSize
    · simp [exact, same] at told
    · rw [if_pos (by simp [exact, same])] at told
      exact Option.some.inj told ▸ .wrong exact same
  · rw [if_neg (by simp [exact])] at told
    by_cases less : d.copies < r.deckSize
    · rw [if_pos less] at told
      exact Option.some.inj told ▸ .few (Bool.eq_false_iff.2 exact) less
    · rw [if_neg less] at told
      cases told

theorem lawful_iff (counted : e.count ≠ 0) : e.Lawful format r ↔ entryProblem? format r e = none := by
  -- There is at least one copy of every entry.
  have single : e.count = 1 ↔ e.count ≤ 1 := by
    rw [← UInt32.toNat_inj, UInt32.le_iff_toNat_le]
    have one : (1 : UInt32).toNat = 1 := rfl
    have some := count_positive counted
    omega
  have exempt : (e.count ≤ r.maxCopies ∨ e.card.anyNumber = true) ↔
      (e.card.anyNumber = false → e.count ≤ r.maxCopies) := by
    cases e.card.anyNumber <;> simp
  rw [entry_fine_iff, Entry.Lawful, single, exempt]

theorem entry_told {p : Problem} : entryProblem? format r e = some p → e.Breaks format r p := by
  rw [entryProblem?]
  cases legality : e.card.legalityIn format with
  | banned => exact fun told => Option.some.inj told ▸ .banned legality
  | notLegal => exact fun told => Option.some.inj told ▸ .notLegal legality
  | restricted =>
    dsimp only
    by_cases more : 1 < e.count
    · rw [if_pos more]
      exact fun told => Option.some.inj told ▸ .restricted legality more
    · rw [if_neg more]
      exact fun told => nomatch told
  | legal =>
    dsimp only
    by_cases excess : r.maxCopies < e.count ∧ e.card.anyNumber = false
    · rw [if_pos (by simpa using excess)]
      exact fun told => Option.some.inj told ▸ .tooMany legality excess.2 excess.1
    · rw [if_neg (by simpa using excess)]
      exact fun told => nomatch told

theorem entries_told {es : List Entry} (counted : ∀ e ∈ es, e.count ≠ 0) :
    List.Forall₂ (Entry.Breaks format r) (es.filter fun e => ¬ e.Lawful format r)
      (es.filterMap (entryProblem? format r)) := by
  induction es with
  | nil => exact .nil
  | cons e rest ih =>
    obtain ⟨first, later⟩ := List.forall_mem_cons.1 counted
    -- A lawful entry is on neither side, any other one on both.
    cases told : entryProblem? format r e with
    | none =>
      have lawful := (lawful_iff first).2 told
      rw [List.filterMap_cons_none told, List.filter_cons_of_neg (by simpa using lawful)]
      exact ih later
    | some p =>
      have unlawful : ¬ e.Lawful format r := by simp [lawful_iff first, told]
      rw [List.filterMap_cons_some told, List.filter_cons_of_pos (by simpa using unlawful)]
      exact .cons (entry_told told) (ih later)

/-- A deck has no problem exactly if its size and all its entries fit the rules. Otherwise the size is told
    first, if it does not fit, and then each entry that does not, once and in order. -/
theorem offences_told {n : Nat} {d : Deck} (reached : Reached n d) (format : String) (r : FormatRules) :
    (d.problems format r = [] ↔ d.Sized r ∧ ∀ e ∈ d.entries, e.Lawful format r) ∧
      (∃ size told, d.problems format r = size ++ told ∧
        ((d.Sized r ∧ size = []) ∨ (¬ d.Sized r ∧ ∃ p, d.Missized r p ∧ size = [p])) ∧
        List.Forall₂ (Entry.Breaks format r) (d.entries.filter fun e => ¬ e.Lawful format r) told) ∧
      d.copies.toNat = capped (copiesIn d.entries) ∧
      ∀ id expansion rarity faces, (Card.ofFaces id expansion rarity faces).anyNumber = true ↔
        ∃ f ∈ faces, (∃ t ∈ f.supertypes.toList, Text.asciiLowered t = "basic") ∨
          Card.anyNumberPhrase <:+: Text.lower f.rules.toList := by
  have counted := (reached_listed reached).counted
  refine ⟨?_, ⟨_, _, rfl, ?_, entries_told counted⟩, total_capped d.entries, Card.any_number_iff⟩
  · rw [no_problems_iff, ← sized_iff]
    exact and_congr_right fun _ => forall₂_congr fun e member => (lawful_iff (counted e member)).symm
  · cases told : d.sizeProblem? r with
    | none => exact .inl ⟨sized_iff.2 told, rfl⟩
    | some p => exact .inr ⟨by simp [sized_iff, told], p, size_told told, rfl⟩

theorem tundra_told :
    let card (name : String) (l : Legality) : Card :=
      (Card.ofFaces name ⟨"Alpha", "", "LEA", ""⟩ .rare [Face.ofName name]).withLegality "vintage" l
    let island : Card := { card "Island" .legal with anyNumber := true }
    let d := ((((empty.after (.add (card "Tundra" .legal) 5)).after (.add island 20)).after
      (.add (card "Library" .restricted) 2)).after (.add (card "Mox" .restricted) 1)).after
        (.add (card "Channel" .banned) 1)
    let offences := [.tooMany "Tundra" 5 4, .restricted "Library" 2, .banned "Channel"]
    d.problems "vintage" .constructed = .tooFew 29 60 :: offences ∧ ¬ d.Sized .constructed ∧
      List.Forall₂ (Entry.Breaks "vintage" .constructed)
        [⟨card "Tundra" .legal, 5⟩, ⟨card "Library" .restricted, 2⟩, ⟨card "Channel" .banned, 1⟩] offences := by
  intro card island d offences
  have told : d.problems "vintage" .constructed = .tooFew 29 60 :: offences := by decide +kernel
  have small : ¬ d.Sized .constructed := by
    rw [sized_iff]
    decide +kernel
  have unlawful : (d.entries.filter fun e => ¬ e.Lawful "vintage" .constructed) =
      [⟨card "Tundra" .legal, 5⟩, ⟨card "Library" .restricted, 2⟩, ⟨card "Channel" .banned, 1⟩] := by decide +kernel
  obtain ⟨_, ⟨size, each, whole, first, breaks⟩, _, _⟩ := offences_told (d := d)
    (.change _ (.change _ (.change _ (.change _ (.change _ .start))))) "vintage" .constructed
  rcases first with ⟨fits, _⟩ | ⟨_, p, _, rfl⟩
  · exact absurd fits small
  · obtain ⟨_, rfl⟩ := List.cons.inj (told.symm.trans whole)
    exact ⟨told, small, unlawful ▸ breaks⟩

end Deck

end Deckwright
