import Deckwright.Filter.Unknown
import Deckwright.Proofs.Filter.Bracketed
import Deckwright.Proofs.Filter.Formats
import Deckwright.Proofs.Text.Ascii
set_option autoImplicit false

namespace Deckwright

namespace Aspect

def spelled (a : Aspect) (card : Card) : List String :=
  match a with
  | .supertype => card.faces.flatMap fun f => f.supertypes.toList
  | .cardType => card.faces.flatMap fun f => f.types.toList
  | .subtype => card.faces.flatMap fun f => f.subtypes.toList
  | .expansion => [card.expansion.name]
  | .block => [card.expansion.block]
  | .legality => card.legality.keys
  | _ => []

def Listed (a : Aspect) : Prop := a.kind = .options ∨ a.kind = .legality

theorem offered_spelled {a : Aspect} (listed : a.Listed) (cards : List Card) :
    a.offered? (InventoryIndex.ofCards cards) = some (OrderedSet.ofList (cards.flatMap a.spelled)).toList := by
  cases a with
  | supertype | cardType | subtype =>
    simp only [offered?, InventoryIndex.ofCards, List.flatMap_assoc]
    rfl
  | expansion | block =>
    simp only [offered?, InventoryIndex.ofCards, List.map_eq_flatMap]
    rfl
  | legality => rfl
  | _ => rcases listed with kind | kind <;> cases kind

theorem option_lists_spelled {a : Aspect} (kind : a.kind = .options) (card : Card) :
    (a.optionLists card).flatten = (a.spelled card).map Text.lowered := by
  cases a with
  | supertype | cardType | subtype =>
    rw [spelled, List.map_flatMap]
    rfl
  | expansion | block => rfl
  | _ => cases kind

section Bearer

def bearerFace (a : Aspect) (value : String) : Face :=
  match a with
  | .supertype => { Face.ofName "" with supertypes := .ofList [value] }
  | .cardType => { Face.ofName "" with types := .ofList [value] }
  | .subtype => { Face.ofName "" with subtypes := .ofList [value] }
  | _ => Face.ofName ""

def bearer (a : Aspect) (value : String) : Card :=
  (Card.ofFaces "" ⟨value, value, "", ""⟩ .common [a.bearerFace value]).withLegality value .legal

theorem bearer_built (a : Aspect) (value : String) : (a.bearer value).Built :=
  ⟨_, _, _, [a.bearerFace value], _, [(value, .legal)], rfl, rfl⟩

theorem spelled_bearer {a : Aspect} (listed : a.Listed) (value : String) :
    ∃ k, a.spelled (a.bearer value) = [k] ∧ Text.asciiLower k.toList = Text.asciiLower value.toList := by
  cases a with
  | supertype | cardType | subtype | expansion | block => exact ⟨value, rfl, rfl⟩
  | legality => exact ⟨Text.asciiLowered value, rfl, by simp [Text.asciiLowered, Text.ascii_lower_again]⟩
  | _ => rcases listed with kind | kind <;> cases kind

end Bearer

end Aspect

namespace Inventory

def sees (inv : Inventory) (a : Aspect) (value : String) : Bool :=
  inv.cards.any fun card => (a.spelled card).any fun k => Text.eqAsciiCase k value

/-- The value is found: by the filter for that one value, or among the small letters of the
    formats of a card. -/
def Answers (inv : Inventory) (a : Aspect) (value : String) : Prop :=
  match a with
  | .legality => ∃ card ∈ inv.cards, ∃ k ∈ card.legality.keys, Text.lowered k = value
  | _ => ∃ f, Filter.ofOptions a .anyOf [value] = .ok f ∧ ∃ card ∈ inv.cards, f.matchesCard card = true

theorem sees_iff {inv : Inventory} {a : Aspect} {value : String} : inv.sees a value = true ↔
    ∃ card ∈ inv.cards, ∃ k ∈ a.spelled card, Text.asciiLower k.toList = Text.asciiLower value.toList := by
  simp only [sees, List.any_eq_true, Text.eqAsciiCase, beq_iff_eq]

theorem sees_bearer {a : Aspect} (listed : a.Listed) (value other : String) :
    (ofCards [a.bearer value]).sees a other = true ↔ Text.asciiLower value.toList = Text.asciiLower other.toList := by
  obtain ⟨k, only, put⟩ := Aspect.spelled_bearer listed value
  have held : (ofCards [a.bearer value]).cards = [a.bearer value] := rfl
  simp [sees_iff, held, only, put]

theorem known_iff_sees {inv : Inventory} {a : Aspect} {value : String} :
    ((OrderedSet.ofList (inv.cards.flatMap a.spelled)).toList.any fun k => Text.eqAsciiCase k value) =
      inv.sees a value := by
  rw [Bool.eq_iff_iff]
  simp only [sees, List.any_eq_true, OrderedSet.mem_ofList, List.mem_flatMap]
  constructor
  · rintro ⟨k, ⟨card, held, spelled⟩, same⟩
    exact ⟨card, held, k, spelled, same⟩
  · rintro ⟨card, held, k, spelled, same⟩
    exact ⟨k, ⟨card, held, spelled⟩, same⟩

end Inventory

theorem Operand.kind_of_values {a : Aspect} {m : Mode} {o : Operand} (suits : o.suits a m = true) (some : o.values ≠ []) :
    (a.kind = .options ∧ ∃ values, o = .options values) ∨ (a.kind = .legality ∧ ∃ w, o = .legality w) := by
  unfold Operand.suits at suits
  cases o with
  | options values =>
    refine .inl ⟨?_, values, rfl⟩
    cases kind : a.kind <;> simp_all
  | legality w =>
    refine .inr ⟨?_, w, rfl⟩
    cases kind : a.kind <;> simp_all
  | none | text | cost | number | colors | rarities => exact absurd rfl some

theorem Leaf.unknown_eq {l : Leaf} (canonical : l.Canonical) (inv : Inventory) : l.unknown inv.index =
    (l.operand.values.map fun v => (l.aspect, v)).filter fun e => !inv.sees e.1 e.2 := by
  unfold unknown
  by_cases none : l.operand.values = []
  · rw [none]
    split <;> rfl
  · have suits := (check_ok.1 canonical.checked).2.1
    have listed : l.aspect.Listed := (Operand.kind_of_values suits none).imp And.left And.left
    rw [Inventory.index, Aspect.offered_spelled listed]
    dsimp only
    rw [List.filter_map]
    simp only [Inventory.known_iff_sees]
    rfl

namespace Filter

def sought (f : Filter) : List (Aspect × String) :=
  f.leaves.flatMap fun l => l.operand.values.map fun v => (l.aspect, v)

theorem leaves_canonical {f : Filter} (canonical : f.Canonical) : ∀ l ∈ f.leaves, l.Canonical := by
  induction canonical with
  | leaf canonical => simpa [leaves] using canonical
  | group _ _ ih =>
    intro l member
    rw [leaves, leaves_all] at member
    obtain ⟨g, child, inside⟩ := List.mem_flatMap.1 member
    exact ih g child l inside

theorem unknown_eq {f : Filter} (canonical : f.Canonical) (inv : Inventory) :
    f.unknown inv.index = f.sought.filter fun e => !inv.sees e.1 e.2 := by
  rw [unknown, sought, List.filter_flatMap]
  exact List.flatMap_congr fun l member => Leaf.unknown_eq (leaves_canonical canonical l member) inv

theorem of_one_option {a : Aspect} (kind : a.kind = .options) {v : String} (bare : Text.Bare v.toList)
    (some : v.isEmpty = false) :
    ofOptions a .anyOf [v] = .ok (.leaf ⟨a, .contains .anyOf, .options (.ofList [v])⟩) := by
  have only (w : String) (member : w ∈ (OrderedSet.ofList [v]).toList) : Text.Bare w.toList ∧ w.isEmpty = false := by
    obtain rfl := List.mem_singleton.1 (OrderedSet.mem_ofList.1 member)
    exact ⟨bare, some⟩
  have operand : Operand.ofOptions [v] = .options (.ofList [v]) := @Operand.of_options_again (.ofList [v]) only
  have whole : (Operand.options (.ofList [v])).blemish? = none := by
    refine Option.map_eq_none_iff.2 (List.find?_eq_none.2 fun w member => ?_)
    obtain ⟨bare, some⟩ := only w member
    simp [some, Text.trimmed_bare bare]
  have checked : Leaf.check a (.contains .anyOf) (.options (.ofList [v])) = .ok () :=
    Leaf.check_ok.2 ⟨by simp [Aspect.allows, kind], by simp [Operand.suits, kind], whole⟩
  rw [ofOptions, operand, ofLeaf, Leaf.make, checked]
  rfl

theorem one_option_matches {a : Aspect} (kind : a.kind = .options) (v : String) (card : Card) :
    (leaf ⟨a, .contains .anyOf, .options (.ofList [v])⟩).matchesCard card = true ↔
      ∃ k ∈ a.spelled card, Text.lowered k = Text.lowered v := by
  have meaning : (leaf ⟨a, .contains .anyOf, .options (.ofList [v])⟩).matchesCard card =
      (a.optionLists card).any fun held => [Text.lowered v].any fun w => held.contains w := rfl
  have flat : Text.lowered v ∈ (a.optionLists card).flatten ↔ ∃ k ∈ a.spelled card, Text.lowered k = Text.lowered v := by
    rw [Aspect.option_lists_spelled kind, List.mem_map]
  rw [meaning, ← flat, List.mem_flatten]
  simp

theorem sought_cases {f : Filter} (canonical : f.Canonical) {a : Aspect} {v : String} (sought : (a, v) ∈ f.sought) :
    (a.kind = .options ∧ Text.Bare v.toList ∧ v.isEmpty = false) ∨ (a = .legality ∧ Text.lowered v = v) := by
  obtain ⟨l, member, inside⟩ := List.mem_flatMap.1 sought
  obtain ⟨v, value, same⟩ := List.mem_map.1 inside
  obtain ⟨rfl, rfl⟩ := Prod.mk.inj same
  have leaf := leaves_canonical canonical l member
  have suits := (Leaf.check_ok.1 leaf.checked).2.1
  rcases Operand.kind_of_values suits (List.ne_nil_of_mem value) with ⟨kind, values, shape⟩ | ⟨kind, w, shape⟩
  · have whole := leaf.whole
    rw [shape] at whole value
    exact .inl ⟨kind, Operand.options_bare whole _ value⟩
  · have settled := leaf.settled
    rw [shape] at settled value
    have again : FormatWish.ofNames w.formats.toList w.restricted = w := settled
    have named : v ∈ (FormatWish.ofNames w.formats.toList w.restricted).formats.toList := by rwa [again]
    refine .inr ⟨by cases aspect : l.aspect <;> simp_all [Aspect.kind], ?_⟩
    rw [Text.lowered, (FormatWish.mem_of_names named).2.1, String.ofList_toList]

section Sought

variable {f : Filter} {a : Aspect} {v : String} (canonical : f.Canonical) (sought : (a, v) ∈ f.sought)

include canonical sought

theorem unknown_iff_unseen (inv : Inventory) : (a, v) ∈ f.unknown inv.index ↔ ¬ inv.sees a v = true := by
  rw [unknown_eq canonical, List.mem_filter]
  simp [sought]

theorem answers_iff (inv : Inventory) : inv.Answers a v ↔
    ∃ card ∈ inv.cards, ∃ k ∈ a.spelled card, Text.lower k.toList = Text.lower v.toList := by
  simp only [← Text.lowered_eq_iff]
  rcases sought_cases canonical sought with ⟨kind, bare, some⟩ | ⟨rfl, low⟩
  · have meaning : inv.Answers a v ↔
        ∃ f, ofOptions a .anyOf [v] = .ok f ∧ ∃ card ∈ inv.cards, f.matchesCard card = true := by
      cases a <;> first | rfl | cases kind
    simp [meaning, of_one_option kind bare some, one_option_matches kind]
  · rw [low]
    rfl

theorem answers_of_sees {inv : Inventory} (seen : inv.sees a v = true) : inv.Answers a v := by
  obtain ⟨card, held, k, spelled, same⟩ := Inventory.sees_iff.1 seen
  exact (answers_iff canonical sought inv).2 ⟨card, held, k, spelled, Text.lower_of_ascii_same same⟩

theorem sees_of_answers (sole : Text.SoleSpelling v.toList) {inv : Inventory} (found : inv.Answers a v) :
    inv.sees a v = true := by
  obtain ⟨card, held, k, spelled, same⟩ := (answers_iff canonical sought inv).1 found
  exact Inventory.sees_iff.2 ⟨card, held, k, spelled, sole k.toList same⟩

theorem answers_unseen (spellings : ¬ Text.SoleSpelling v.toList) : ∃ card : Card, card.Built ∧
    ¬ (Inventory.ofCards [card]).sees a v = true ∧ (Inventory.ofCards [card]).Answers a v := by
  simp only [Text.SoleSpelling, not_forall] at spellings
  obtain ⟨t, same, apart⟩ := spellings
  have listed : a.Listed := (sought_cases canonical sought).imp And.left fun ⟨legality, _⟩ => legality ▸ rfl
  obtain ⟨k, only, put⟩ := Aspect.spelled_bearer listed (String.ofList t)
  refine ⟨a.bearer (String.ofList t), Aspect.bearer_built a _, ?_, ?_⟩
  · rwa [Inventory.sees_bearer listed, String.toList_ofList]
  · have alike : Text.lower k.toList = Text.lower v.toList := by
      rw [Text.lower_of_ascii_same put, String.toList_ofList, same]
    exact (answers_iff canonical sought _).2 ⟨_, List.mem_singleton_self _, k, by simp [only], alike⟩

end Sought

/-- What is reported of a filter are its values that no card has, ASCII letters in any case. A value that is
    found nowhere is among them. If no other text comes to its small letters it is only then, and otherwise some
    card has it found and still reported. An ASCII value is of the first kind just if there is no k in it. -/
theorem unknown_reported {f : Filter} (made : f.Made) :
    (∀ inv : Inventory, f.unknown inv.index = f.sought.filter fun e => !inv.sees e.1 e.2) ∧
    ∀ a v, (a, v) ∈ f.sought →
      (a ≠ .legality → ∃ g, ofOptions a .anyOf [v] = .ok g) ∧
      (∀ inv : Inventory, ¬ inv.Answers a v → (a, v) ∈ f.unknown inv.index) ∧
      (Text.SoleSpelling v.toList → ∀ inv : Inventory, (a, v) ∈ f.unknown inv.index ↔ ¬ inv.Answers a v) ∧
      (¬ Text.SoleSpelling v.toList → ∃ card : Card, card.Built ∧
        (a, v) ∈ f.unknown (Inventory.ofCards [card]).index ∧ (Inventory.ofCards [card]).Answers a v) ∧
      ((∀ c ∈ v.toList, c.toNat < 128) → (Text.SoleSpelling v.toList ↔ 'k' ∉ Text.asciiLower v.toList)) := by
  have canonical := made_canonical made
  refine ⟨unknown_eq canonical, fun a v sought => ?_⟩
  have reported := unknown_iff_unseen canonical sought
  refine ⟨fun other => ?_, fun inv lost => ?_, fun sole inv => ?_, fun spellings => ?_, Text.sole_spelling_ascii⟩
  · rcases sought_cases canonical sought with ⟨kind, bare, some⟩ | ⟨legality, _⟩
    · exact ⟨_, of_one_option kind bare some⟩
    · exact absurd legality other
  · exact (reported inv).2 fun seen => lost (answers_of_sees canonical sought seen)
  · rw [reported, not_iff_not]
    exact ⟨answers_of_sees canonical sought, sees_of_answers canonical sought sole⟩
  · obtain ⟨card, built, unseen, found⟩ := answers_unseen canonical sought spellings
    exact ⟨card, built, (reported _).2 unseen, found⟩

-- The filter for the name in small letters finds the card and is told that there is none.
theorem ligature_reported :
    let card := Card.ofFaces "" (Expansion.ofName "Æther Revolt" "AER") .common [Face.ofName "Bear"]
    let f : Filter := .leaf ⟨.expansion, .contains .anyOf, .options (.ofList ["æther revolt"])⟩
    f.Made ∧ f.matchesCard card = true ∧
      f.unknown (Inventory.ofCards [card]).index = [(.expansion, "æther revolt")] ∧
      (Inventory.ofCards [card]).Answers .expansion "æther revolt" := by
  intro card f
  have single : ofOptions .expansion .anyOf ["æther revolt"] = .ok f :=
    of_one_option rfl (Text.trim_bare "æther revolt".toList) rfl
  have made : f.Made := .options single
  have matched : f.matchesCard card = true :=
    (one_option_matches rfl "æther revolt" card).2 ⟨"Æther Revolt", List.mem_singleton_self _, by decide +kernel⟩
  have held : card ∈ (Inventory.ofCards [card]).cards := List.mem_singleton_self card
  refine ⟨made, matched, ?_, f, single, card, held, matched⟩
  rw [(unknown_reported made).1]
  decide +kernel

end Filter

end Deckwright
