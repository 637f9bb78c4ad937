import Deckwright.Filter.Basic
import Deckwright.Proofs.Ordered
import Deckwright.Proofs.Text.Ascii
set_option autoImplicit false

namespace Deckwright

namespace FormatWish

theorem of_name {name : String} (bare : Text.trimmed name = name) (some : name ≠ "") (restricted : Bool) :
    (ofNames [name] restricted).formats.toList = [Text.lowered name] := by
  have kept : (!(Text.lowered name).isEmpty) = true := by simpa using Text.lowered_some some
  rw [ofNames, List.map_singleton, bare, List.filter_singleton, kept]
  rfl

theorem test_any_of (w : FormatWish) (card : Card) :
    w.test .anyOf card = true ↔ ∃ v ∈ w.formats.toList, ∃ l, card.legality.get? v = some l ∧ w.counts l = true := by
  simp only [test, Containment.test, List.any_eq_true, List.contains_iff_mem, List.mem_map, List.mem_filter,
    OrderedMap.get_eq_some_iff]
  constructor
  · rintro ⟨v, wanted, ⟨k, l⟩, ⟨listed, counted⟩, rfl⟩
    exact ⟨k, wanted, l, listed, counted⟩
  · rintro ⟨v, wanted, l, listed, counted⟩
    exact ⟨v, wanted, (v, l), ⟨listed, counted⟩, rfl⟩

end FormatWish

namespace Card

theorem legality_in_iff {card : Card} {format : String} {l : Legality} (listed : l ≠ .notLegal) :
    card.legalityIn format = l ↔ card.legality.get? (Text.asciiLowered format) = some l := by
  unfold legalityIn
  cases card.legality.get? (Text.asciiLowered format) with
  | none => simp [Ne.symm listed]
  | some found => simp

/-- What the filters for the format that is asked for find on the card is what the card says of
    the format that is told. -/
def Answers (card : Card) (asked told : String) : Prop :=
  ((Filter.ofLegality .anyOf [asked] false).matchesCard card = true ↔
      card.legalityIn told = .legal ∨ card.legalityIn told = .restricted) ∧
    ((Filter.ofLegality .anyOf [asked] true).matchesCard card = true ↔ card.legalityIn told = .restricted)

theorem answers_lowered {name : String} (bare : Text.trimmed name = name) (some : name ≠ "") (card : Card) :
    card.Answers name (Text.lowered name) := by
  have found (restricted : Bool) : (Filter.ofLegality .anyOf [name] restricted).matchesCard card = true ↔
      ∃ l, card.legality.get? (Text.lowered name) = .some l ∧ (FormatWish.ofNames [name] restricted).counts l = true := by
    refine (FormatWish.test_any_of (FormatWish.ofNames [name] restricted) card).trans ?_
    rw [FormatWish.of_name bare some]
    simp
  rw [Answers, found, found, legality_in_iff (by decide), legality_in_iff (by decide), Text.ascii_lowered_lowered]
  constructor
  · constructor
    · rintro ⟨l, listed, counted⟩
      cases l with
      | legal => exact .inl listed
      | restricted => exact .inr listed
      | banned => cases counted
      | notLegal => cases counted
    · rintro (listed | listed)
      · exact ⟨.legal, listed, rfl⟩
      · exact ⟨.restricted, listed, rfl⟩
  · constructor
    · rintro ⟨l, listed, counted⟩
      obtain rfl : l = .restricted := of_decide_eq_true counted
      exact listed
    · exact fun listed => ⟨.restricted, listed, rfl⟩

theorem Answers.transfer {card : Card} {asked told other : String} (answers : card.Answers asked told)
    (same : Text.asciiLowered told = Text.asciiLowered other) : card.Answers asked other := by
  unfold Answers legalityIn at answers ⊢
  rwa [← same]

theorem legality_in_sole {base : Card} (fresh : base.legality = ∅) (name format : String) :
    (base.withLegality name .legal).legalityIn format =
      if Text.asciiLowered format = Text.asciiLowered name then .legal else .notLegal := by
  rw [legalityIn, withLegality, OrderedMap.get_insert, fresh]
  split <;> rfl

theorem answers_sole {base : Card} (fresh : base.legality = ∅) {name : String} (bare : Text.trimmed name = name)
    (some : name ≠ "") (answers : (base.withLegality name .legal).Answers name name) :
    Text.lowered name = Text.asciiLowered name := by
  have legal : (base.withLegality name .legal).legalityIn name = .legal := by
    rw [legality_in_sole fresh, if_pos rfl]
  have found := (answers_lowered bare some _).1.1 (answers.1.2 (.inl legal))
  rw [legality_in_sole fresh, Text.ascii_lowered_lowered] at found
  by_cases same : Text.lowered name = Text.asciiLowered name
  · exact same
  · rw [if_neg same] at found
    rcases found with found | found <;> cases found

def Built (card : Card) : Prop :=
  ∃ id expansion rarity faces base ls, create? id expansion rarity faces = some base ∧ card = base.withLegalities ls

/-- A filter asks every card for the name of the format in small letters. What it finds is what the card says
    of the name itself where the name has no capitals beyond ASCII. -/
theorem format_answered_iff {name : String} (bare : Text.trimmed name = name) (some : name ≠ "") :
    (∀ card : Card, card.Answers name (Text.lowered name)) ∧
    ((∀ card : Card, card.Built → card.Answers name name) ↔
      ∀ c ∈ name.toList, c.toNat < 128 ∨ Text.lowerChar c = [c]) := by
  refine ⟨answers_lowered bare some, ?_⟩
  rw [← Text.lowered_eq_ascii_iff]
  constructor
  · intro answered
    let base := ofFaces "" (Expansion.ofName "" "") .common [Face.ofName name]
    have made : create? "" (Expansion.ofName "" "") .common [Face.ofName name] = .some base := rfl
    have alike := answered (base.withLegality name .legal) ⟨_, _, _, _, base, [(name, .legal)], made, rfl⟩
    exact answers_sole rfl bare some alike
  · intro plain card _
    refine (answers_lowered bare some card).transfer ?_
    rw [Text.ascii_lowered_lowered, plain]

-- The card is listed under the name with its capital, and the filter asks for it without.
theorem accented_capital_unanswered :
    let card := (ofFaces "" (Expansion.ofName "" "") .common [Face.ofName "Bear"]).withLegality "Élan" .legal
    Text.trimmed "Élan" = "Élan" ∧ card.legalityIn "Élan" = .legal ∧
      ¬ (Filter.ofLegality .anyOf ["Élan"] false).matchesCard card = true ∧
      ¬ ∀ card : Card, card.Built → card.Answers "Élan" "Élan" := by
  intro card
  have bare : Text.trimmed "Élan" = "Élan" := by decide
  have small : card.legalityIn (Text.lowered "Élan") = .notLegal := by decide +kernel
  obtain ⟨lowered, own⟩ := format_answered_iff bare (by decide)
  refine ⟨bare, by decide, fun matched => ?_, fun answered => ?_⟩
  · have found := (lowered card).1.1 matched
    rw [small] at found
    rcases found with found | found <;> cases found
  · exact absurd (own.1 answered 'É' (by decide)) (by decide +kernel)

end Card

end Deckwright
