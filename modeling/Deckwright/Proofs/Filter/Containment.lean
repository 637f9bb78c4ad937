import Deckwright.Proofs.Filter.Bag
import Deckwright.Proofs.Filter.Search
import Deckwright.Proofs.Text.Token
set_option autoImplicit false

namespace Deckwright

namespace Containment

/-- What is matched exactly is matched as a whole, and in part if there is something to match. -/
structure Graded (asks : Prop) (found : Containment → Bool) : Prop where
  whole : found .exactly = true → found .allOf = true
  part : asks → found .allOf = true → found .anyOf = true

def Opposed (found : Containment → Bool) : Prop := found .noneOf = !found .anyOf

section Values

variable {α : Type} {asks : Prop} {test : Containment → α → Bool} (values : List α)

theorem Graded.any (each : ∀ v, Graded asks fun c => test c v) : Graded asks fun c => values.any (test c) := by
  constructor
  · intro found
    obtain ⟨v, member, here⟩ := List.any_eq_true.1 found
    exact List.any_eq_true.2 ⟨v, member, (each v).whole here⟩
  · intro some found
    obtain ⟨v, member, here⟩ := List.any_eq_true.1 found
    exact List.any_eq_true.2 ⟨v, member, (each v).part some here⟩

-- Of two values one may match and the other not, so this takes a single one.
theorem Opposed.any (each : ∀ v, Opposed fun c => test c v) (single : values.length = 1) :
    Opposed fun c => values.any (test c) := by
  obtain ⟨v, rfl⟩ := List.length_eq_one_iff.1 single
  simpa [Opposed] using each v

end Values

section Lists

variable {α : Type} [DecidableEq α] (held want : List α)

theorem test_graded : Graded (want ≠ []) fun c => c.test held want := by
  constructor
  · intro exact
    exact (Bool.and_eq_true_iff.1 exact).1
  · intro some all
    obtain ⟨w, member⟩ := List.exists_mem_of_ne_nil want some
    exact List.any_eq_true.2 ⟨w, member, List.all_eq_true.1 all w member⟩

theorem test_opposed : Opposed fun c => c.test held want := rfl

end Lists

end Containment

open Containment (Graded Opposed test_graded test_opposed)

theorem cost_graded (held want : ManaCost) : Graded (want.symbols ≠ []) fun c => Leaf.costTest c held want := by
  constructor
  · intro exact
    exact ((Leaf.exactly_iff_both held want).1 exact).1
  · intro some all
    obtain ⟨m, asked⟩ := List.exists_mem_of_ne_nil want.symbols some
    have often : want.symbols.count m ≤ held.symbols.count m := (Leaf.all_of_iff held want).1 all m
    have once : 0 < want.symbols.count m := List.count_pos_iff.2 asked
    exact (Leaf.any_of_iff held want).2 ⟨m, asked, List.count_pos_iff.1 (Nat.lt_of_lt_of_le once often)⟩

theorem cost_opposed (held want : ManaCost) : Opposed fun c => Leaf.costTest c held want := Leaf.none_of_eq held want

namespace ColorSet

variable {s t : ColorSet}

theorem subset_refl (s : ColorSet) : s.isSubset s = true := by
  rw [isSubset, UInt8.and_not_self]
  rfl

theorem subset_intersects (some : s.isEmpty = false) (within : s.isSubset t = true) : t.intersects s = true := by
  rw [isSubset, beq_iff_eq, ← UInt8.toBitVec_inj] at within
  rw [isEmpty, beq_eq_false_iff_ne] at some
  rw [intersects, bne_iff_ne]
  intro apart
  rw [← UInt8.toBitVec_inj] at apart
  refine some (UInt8.toBitVec_inj.1 ?_)
  calc
    s.mask.toBitVec = s.mask.toBitVec &&& (t.mask.toBitVec ||| ~~~t.mask.toBitVec) := by
      rw [BitVec.or_not_self, BitVec.and_allOnes]
    _ = (t.mask.toBitVec &&& s.mask.toBitVec) ||| (s.mask.toBitVec &&& ~~~t.mask.toBitVec) := by
      rw [BitVec.and_or_distrib_left, BitVec.and_comm t.mask.toBitVec]
    _ = 0 := by
      rw [← UInt8.toBitVec_and, apart, ← UInt8.toBitVec_not, ← UInt8.toBitVec_and, within]
      rfl

end ColorSet

theorem ColorWish.graded (w : ColorWish) (held : ColorSet) :
    Graded (w.colors.isEmpty = false) fun c => w.test c held := by
  constructor
  · intro exact
    obtain ⟨same, many⟩ := Bool.and_eq_true_iff.1 exact
    refine Bool.and_eq_true_iff.2 ⟨?_, many⟩
    rw [of_decide_eq_true same]
    exact ColorSet.subset_refl w.colors
  · intro some all
    obtain ⟨within, many⟩ := Bool.and_eq_true_iff.1 all
    exact Bool.and_eq_true_iff.2 ⟨ColorSet.subset_intersects some within, many⟩

theorem ColorWish.opposed {w : ColorWish} (plain : w.multicolored = false) (held : ColorSet) :
    Opposed fun c => w.test c held := by
  simp [Opposed, ColorWish.test, plain]

namespace Search

structure Wordy (s : Search) : Prop where
  bare : s.isPattern = false
  unquoted : '"' ∉ Text.plain s.text.toList

def Asks (s : Search) : Prop := Text.terms (Text.plain s.text.toList) ≠ []

theorem wordy_words {s : Search} (wordy : s.Wordy) :
    s.matcher = .words (Text.terms (Text.plain s.text.toList)) (Text.plain (Text.trim s.text.toList)) := by
  have readable := s.readable
  cases pattern : Matcher.patternText? s.text.toList with
  | none =>
    rw [Matcher.read_words pattern] at readable
    exact (Option.some.inj readable).symm
  | some p =>
    have bare := wordy.bare
    rw [Matcher.read, pattern] at readable
    obtain ⟨inside, _, readable⟩ := Option.bind_eq_some_iff.1 readable
    obtain ⟨whole, _, readable⟩ := Option.bind_eq_some_iff.1 readable
    rw [isPattern, ← Option.some.inj readable] at bare
    cases bare

theorem graded {s : Search} (wordy : s.Wordy) (field : String) : Graded s.Asks fun c => s.test c field := by
  have words := wordy_words wordy
  constructor
  · intro exact
    rw [test, words] at exact
    have same : field.toList = Text.plain (Text.trim s.text.toList) := of_decide_eq_true exact
    rw [test, words, same]
    refine List.all_eq_true.2 fun w member => Text.token_found ?_
    rwa [← Text.tokens_plain_trim, ← Text.terms_unquoted wordy.unquoted]
  · intro some all
    rw [test, words] at all ⊢
    obtain ⟨w, member⟩ := List.exists_mem_of_ne_nil _ some
    exact List.any_eq_true.2 ⟨w, member, List.all_eq_true.1 all w member⟩

theorem opposed (s : Search) (field : String) : Opposed fun c => s.test c field := by
  rw [Opposed, test, test]
  cases s.matcher <;> rfl

end Search

namespace Operand

def Wordy : Operand → Prop
  | .text s => s.Wordy
  | _ => True

def Asks : Operand → Prop
  | .text s => s.Asks
  | .cost c => c.symbols ≠ []
  | .colors w => w.colors.isEmpty = false
  | .options values => values.toList ≠ []
  | .rarities values => values.toList ≠ []
  | .legality w => w.formats.toList ≠ []
  | .none | .number _ => False

def wantsMulticolored : Operand → Bool
  | .colors w => w.multicolored
  | _ => false

def kind : Operand → ValueKind
  | .none => .constant
  | .text _ => .text
  | .cost _ => .cost
  | .number _ => .number
  | .colors _ => .colors
  | .options _ => .options
  | .rarities _ => .rarity
  | .legality _ => .legality

theorem kind_of_suits {o : Operand} {a : Aspect} {c : Containment} (suited : o.suits a (.contains c) = true) :
    a.kind = o.kind := by
  unfold suits at suited
  cases shape : a.kind <;> cases o <;> first | rfl | simp [shape, Mode.isExistence] at suited

end Operand

namespace Aspect

def isOfCard : Aspect → Bool
  | .manaValue | .colorIdentity | .expansion | .block | .rarity | .legality => true
  | _ => false

variable {a : Aspect} {card : Card}

theorem of_faces (kind : a.kind = .text ∨ a.kind = .cost) : a.isOfCard = false := by
  cases a <;> first | rfl | simp [Aspect.kind] at kind

theorem color_sets_single (kind : a.kind = .colors) (single : a.isOfCard = true ∨ card.faces.length = 1) :
    (a.colorSets card).length = 1 := by
  cases a with
  | colorIdentity => rfl
  | color => simpa [colorSets, isOfCard] using single
  | _ => cases kind

theorem option_lists_single (kind : a.kind = .options) (single : a.isOfCard = true ∨ card.faces.length = 1) :
    (a.optionLists card).length = 1 := by
  cases a with
  | expansion => rfl
  | block => rfl
  | supertype => simpa [optionLists, isOfCard] using single
  | cardType => simpa [optionLists, isOfCard] using single
  | subtype => simpa [optionLists, isOfCard] using single
  | _ => cases kind

end Aspect

namespace Leaf

variable {a : Aspect} {o : Operand} {card : Card}

theorem test_graded (wordy : o.Wordy) : Graded o.Asks fun c => Leaf.test ⟨a, .contains c, o⟩ card := by
  cases o with
  | text s => exact Graded.any (a.texts card) (Search.graded wordy)
  | cost want => exact Graded.any (a.costs card) fun held => cost_graded held want
  | colors w => exact Graded.any (a.colorSets card) w.graded
  | options values =>
    obtain ⟨whole, part⟩ := Graded.any (a.optionLists card) fun held =>
      Containment.test_graded held (values.toList.map Text.lowered)
    exact ⟨whole, fun (some : values.toList ≠ []) => part (by simpa using some)⟩
  | rarities values => exact Containment.test_graded [card.rarity] values.toList
  | legality w => exact Containment.test_graded _ w.formats.toList
  | none => exact ⟨id, fun _ => id⟩
  | number x => exact ⟨id, fun _ => id⟩

theorem test_opposed (field : a.allows (.contains .anyOf) = true) (suited : o.suits a (.contains .anyOf) = true)
    (single : a.isOfCard = true ∨ card.faces.length = 1) (plain : o.wantsMulticolored = false) :
    Opposed fun c => Leaf.test ⟨a, .contains c, o⟩ card := by
  have kind := Operand.kind_of_suits suited
  cases o with
  | text s =>
    have faces : card.faces.length = 1 := single.resolve_left (by simp [Aspect.of_faces (.inl kind)])
    exact Opposed.any (a.texts card) s.opposed (by rw [Aspect.texts, List.length_map, faces])
  | cost want =>
    have faces : card.faces.length = 1 := single.resolve_left (by simp [Aspect.of_faces (.inr kind)])
    exact Opposed.any (a.costs card) (fun held => cost_opposed held want) (by rw [Aspect.costs, List.length_map, faces])
  | colors w => exact Opposed.any (a.colorSets card) (ColorWish.opposed plain) (Aspect.color_sets_single kind single)
  | options values =>
    exact Opposed.any (a.optionLists card) (fun held => Containment.test_opposed held _)
      (Aspect.option_lists_single kind single)
  | rarities values => exact Containment.test_opposed [card.rarity] values.toList
  | legality w => exact Containment.test_opposed _ w.formats.toList
  | none => simp [Aspect.allows, kind, Operand.kind] at field
  | number x => simp [Aspect.allows, kind, Operand.kind] at field

/-- Whatever kind of value is looked for, a match of exactly it is a match of all of it, and a match of all
    of it one of any of it as long as there is something to look for. Where the card has a single value at
    the field, none of it matches just when any of it does not; only a wish for several colors is apart. -/
theorem modes_graded (field : a.allows (.contains .anyOf) = true) (suited : o.suits a (.contains .anyOf) = true)
    (wordy : o.Wordy) (card : Card) :
    let found (c : Containment) : Bool := Leaf.test ⟨a, .contains c, o⟩ card
    (found .exactly = true → found .allOf = true) ∧
    (o.Asks → found .allOf = true → found .anyOf = true) ∧
    (a.isOfCard = true ∨ card.faces.length = 1 → o.wantsMulticolored = false →
      (found .noneOf = true ↔ ¬ found .anyOf = true)) := by
  intro found
  obtain ⟨whole, part⟩ : Graded o.Asks found := test_graded wordy
  refine ⟨whole, part, fun single plain => ?_⟩
  have opposed : found .noneOf = !found .anyOf := test_opposed field suited single plain
  rw [opposed, Bool.not_eq_true', Bool.not_eq_true]

-- The second word occurs in the first one too, behind a letter.
theorem doubled_name_graded :
    let card := Card.ofFaces "x" ⟨"", "", "", ""⟩ .common [Face.ofName "Xa-a a-a"]
    ∃ s : Search, s.text = " xa-a a-a" ∧ s.Wordy ∧ s.Asks ∧ ∀ c,
      Leaf.test ⟨.name, .contains c, .text s⟩ card = true ↔ c ≠ .noneOf := by
  intro card
  obtain ⟨s, text, words⟩ := @Search.of_bare_text " xa-a a-a" (by decide)
  have wordy : s.Wordy := ⟨by rw [Search.isPattern, words]; rfl, by rw [text]; decide +kernel⟩
  have asks : s.Asks := by
    rw [Search.Asks, text]
    decide +kernel
  obtain ⟨whole, part, opposed⟩ := modes_graded (a := .name) (o := .text s) rfl rfl wordy card
  have exact : Leaf.test ⟨.name, .contains .exactly, .text s⟩ card = true := by
    have name : Aspect.name.texts card = ["xa-a a-a"] := by decide +kernel
    have same : "xa-a a-a".toList = Text.plain (Text.trim " xa-a a-a".toList) := by decide +kernel
    simp [Leaf.test, name, Search.test, words, Matcher.test, same]
  refine ⟨s, text, wordy, asks, fun c => ?_⟩
  cases c with
  | exactly => exact iff_of_true exact (by decide)
  | allOf => exact iff_of_true (whole exact) (by decide)
  | anyOf => exact iff_of_true (part asks (whole exact)) (by decide)
  | noneOf =>
    refine iff_of_false (fun none => ?_) (by simp)
    exact (opposed (.inr rfl) rfl).1 none (part asks (whole exact))

end Leaf

end Deckwright
