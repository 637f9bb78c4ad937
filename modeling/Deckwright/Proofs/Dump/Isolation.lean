import Deckwright.Dump.Load
import Deckwright.Proofs.Dump.Course
import Deckwright.Proofs.Json.Lookup
set_option autoImplicit false

namespace Deckwright

namespace DumpItem

def yield (o : LoadOptions) (form : DumpForm) : DumpItem → List LoadWarning × List Printing
  | .strangeSet key => ([.strangeSet key], [])
  | .set _ => ([], [])
  | .strangeCard => ([], [])
  | .card e fields => if (DumpItem.card e fields).isWanted o form then found o form e fields else ([], [])

variable (o : LoadOptions) (form : DumpForm)

theorem harvest_yield (m : Meter) (item : DumpItem) :
    ((item.harvest o form m).2.warnings, (item.harvest o form m).2.printings) = item.yield o form := by
  cases item with
  | strangeSet key => rfl
  | set e => rfl
  | strangeCard => rfl
  | card e fields =>
    rw [harvest, yield]
    split <;> rfl

theorem gather_yield (told : Nat) (m : Meter) (items : List DumpItem) :
    (gather o form none told m items).2.warnings = items.flatMap (fun item => (item.yield o form).1) ∧
      (gather o form none told m items).2.printings = items.flatMap (fun item => (item.yield o form).2) := by
  induction items generalizing told m with
  | nil => exact ⟨rfl, rfl⟩
  | cons item rest ih =>
    obtain ⟨warnings, printings⟩ := ih (told + (item.harvest o form m).2.events.length) (item.harvest o form m).1
    have here := harvest_yield o form m item
    rw [List.flatMap_cons, List.flatMap_cons, ← here, ← warnings, ← printings]
    exact ⟨rfl, rfl⟩

end DumpItem

namespace Dump

theorem load_outcome (d : Dump) (o : LoadOptions) (told : Nat) :
    (d.load o none told).2 = finished o ⟨[], d.items.flatMap (fun item => (item.yield o d.form).1),
      d.items.flatMap (fun item => (item.yield o d.form).2)⟩ := by
  have going := (DumpItem.gather_never o d.form (d.meter o) d.items (told + (d.opening o).length) 0).2
  obtain ⟨warnings, printings⟩ := DumpItem.gather_yield o d.form (told + (d.opening o).length) (d.meter o) d.items
  rw [← warnings, ← printings, load]
  dsimp only
  rw [going]
  rfl

def withoutCard (key : String) (i : Nat) (root : Json) : Json :=
  let strike := Json.alter key (Json.alter "cards" (Json.dropItem i))
  if (root.field? "meta").isSome then Json.alter "data" strike root else strike root

/-- A card record that the options ask for and that cannot be read, at a place of a set of the dump. -/
structure BadCard (o : LoadOptions) (d : Dump) (key : String) (i : Nat) where
  set : Fields
  cards : List Json
  card : Fields
  reason : PrintingFault
  held : (key, .record set) ∈ d.sets
  listed : set.get? "cards" = some (.list cards)
  here : cards[i]? = some (.record card)
  wanted : o.needsMultiverseId = true → (Printing.multiverseId? d.form card).isSome = true
  unread : Printing.read d.form (expansionOf key set) card = .error reason

def BadCard.warning {o : LoadOptions} {d : Dump} {key : String} {i : Nat} (bad : BadCard o d key i) : LoadWarning :=
  .skipped ((Printing.faceName? bad.card).getD DumpItem.unnamed) (expansionOf key bad.set) bad.reason

theorem of_json_bare {fields : Fields} (bare : Json.lookup "meta" fields = none) :
    ofJson (.record fields) = .ok (ofSets .bare fields) := by
  simp [ofJson, Fields.ofJson?, Json.fields?, Fields.get?, bare]

theorem of_json_wrapped {fields sets : Fields} {layer : Json} (wrapped : Json.lookup "meta" fields = some layer)
    (data : Json.lookup "data" fields = some (.record sets)) :
    ofJson (.record fields) = .ok (ofSets .wrapped sets) := by
  simp [ofJson, Fields.ofJson?, Json.fields?, Fields.get?, wrapped, data]

theorem of_json_cases {root : Json} {d : Dump} (read : ofJson root = .ok d) :
    ∃ fields, root = .record fields ∧
      (Json.lookup "meta" fields = none ∧ d = ofSets .bare fields ∨
        ∃ layer sets, Json.lookup "meta" fields = some layer ∧ Json.lookup "data" fields = some (.record sets) ∧
          d = ofSets .wrapped sets) := by
  cases root with
  | record fields =>
    refine ⟨fields, rfl, ?_⟩
    cases wrapped : Json.lookup "meta" fields with
    | none =>
      rw [of_json_bare wrapped] at read
      exact .inl ⟨rfl, (Except.ok.inj read).symm⟩
    | some layer =>
      have inner : (Json.lookup "data" fields).bind Fields.ofJson? = none ∨
          ∃ sets, Json.lookup "data" fields = some (.record sets) := by
        cases Json.lookup "data" fields with
        | none => exact .inl rfl
        | some j => cases j <;> first | exact .inl rfl | exact .inr ⟨_, rfl⟩
      rcases inner with missing | ⟨sets, data⟩
      · have refused : ofJson (.record fields) = .error .data := by
          simp [ofJson, Fields.ofJson?, Json.fields?, Fields.get?, wrapped, missing]
        rw [refused] at read
        cases read
      · rw [of_json_wrapped wrapped data] at read
        exact .inr ⟨layer, sets, rfl, data, (Except.ok.inj read).symm⟩
  | _ => cases read

theorem of_json_increasing {root : Json} {d : Dump} (read : ofJson root = .ok d) :
    Ordered.Increasing (d.sets.map Prod.fst) := by
  obtain ⟨fields, _, ⟨_, rfl⟩ | ⟨_, sets, _, _, rfl⟩⟩ := of_json_cases read
  · exact (OrderedMap.ofList fields).increasing
  · exact (OrderedMap.ofList sets).increasing

def strikeCard (key : String) (i : Nat) (d : Dump) : Dump :=
  { d with sets := Json.alterFields key (Json.alter "cards" (Json.dropItem i)) d.sets }

theorem of_json_without {root : Json} {d : Dump} (read : ofJson root = .ok d) (key : String) (i : Nat) :
    ofJson (withoutCard key i root) = .ok (d.strikeCard key i) := by
  have struck (form : DumpForm) (sets : Fields) : (ofSets form sets).strikeCard key i =
      ofSets form (Json.alterFields key (Json.alter "cards" (Json.dropItem i)) sets) := by
    rw [strikeCard, ofSets, ofSets, Json.mapping_alter]
  obtain ⟨fields, rfl, ⟨bare, rfl⟩ | ⟨layer, sets, wrapped, data, rfl⟩⟩ := of_json_cases read
  · have flag : ((Json.record fields).field? "meta").isSome = false := by
      simp [Json.field?, Json.fields?, bare]
    have still : Json.lookup "meta" (Json.alterFields key (Json.alter "cards" (Json.dropItem i)) fields) = none := by
      rw [Json.lookup_alter, bare]
      rfl
    rw [withoutCard, flag, if_neg (by decide), Json.alter, of_json_bare still, struck]
  · have flag : ((Json.record fields).field? "meta").isSome = true := by
      simp [Json.field?, Json.fields?, wrapped]
    have outer := Json.lookup_altered (Json.alter key (Json.alter "cards" (Json.dropItem i))) fields
      (show "meta" ≠ "data" by decide)
    have inner := Json.lookup_alter "data" "data" (Json.alter key (Json.alter "cards" (Json.dropItem i))) fields
    rw [data, Option.map_some, if_pos rfl, Json.alter] at inner
    rw [withoutCard, flag, if_pos rfl, Json.alter, of_json_wrapped (outer.trans wrapped) inner, struck]

theorem expansion_altered (key : String) (f : Json → Json) (set : Fields) :
    expansionOf key (Json.alterFields "cards" f set) = expansionOf key set := by
  have text {k : String} (other : k ≠ "cards") : Fields.text? (Json.alterFields "cards" f set) k = set.text? k := by
    rw [Fields.text?, Fields.get?, Json.lookup_altered _ _ other]
    rfl
  simp only [expansionOf, Fields.textD]
  rw [text (by decide), text (by decide), text (by decide), text (by decide)]

theorem of_set_items (key : String) {set : Fields} {cards : List Json} (listed : set.get? "cards" = some (.list cards)) :
    DumpItem.ofSet key (.record set) =
      .set (expansionOf key set) :: cards.map (DumpItem.ofCard (expansionOf key set)) := by
  simp [DumpItem.ofSet, Fields.ofJson?, Json.fields?, listed, Json.items?]

theorem items_without {o : LoadOptions} {d : Dump} {key : String} {i : Nat} (bad : BadCard o d key i)
    (increasing : Ordered.Increasing (d.sets.map Prod.fst)) :
    ∃ front back, d.items = front ++ .card (expansionOf key bad.set) bad.card :: back ∧
      (d.strikeCard key i).items = front ++ back := by
  obtain ⟨before, behind, split⟩ := List.append_of_mem bad.held
  have sets : (d.strikeCard key i).sets =
      before ++ (key, .record (Json.alterFields "cards" (Json.dropItem i) bad.set)) :: behind := by
    rw [split] at increasing
    rw [strikeCard, split]
    exact Json.alter_middle _ _ (Ordered.keys_apart increasing)
  have struck : Fields.get? (Json.alterFields "cards" (Json.dropItem i) bad.set) "cards" =
      some (.list (bad.cards.take i ++ bad.cards.drop (i + 1))) := by
    rw [Fields.get?, Json.lookup_alter, ← Fields.get?, bad.listed, Option.map_some, if_pos rfl, Json.dropItem,
      List.eraseIdx_eq_take_drop_succ]
  have around : bad.cards = bad.cards.take i ++ .record bad.card :: bad.cards.drop (i + 1) := by
    obtain ⟨within, place⟩ := List.getElem?_eq_some_iff.1 bad.here
    rw [← place, List.getElem_cons_drop, List.take_append_drop]
  have whole := of_set_items key bad.listed
  have rest := of_set_items key struck
  rw [around] at whole
  rw [expansion_altered] at rest
  refine ⟨before.flatMap (fun e => DumpItem.ofSet e.1 e.2) ++
      .set (expansionOf key bad.set) :: (bad.cards.take i).map (DumpItem.ofCard (expansionOf key bad.set)),
    (bad.cards.drop (i + 1)).map (DumpItem.ofCard (expansionOf key bad.set)) ++
      behind.flatMap fun e => DumpItem.ofSet e.1 e.2, ?_, ?_⟩
  · rw [items, split, List.flatMap_append, List.flatMap_cons, whole, List.map_append, List.map_cons]
    simp [DumpItem.ofCard, Fields.ofJson?, Json.fields?]
  · rw [items, sets, List.flatMap_append, List.flatMap_cons, rest]
    simp

theorem finished_without (o : LoadOptions) (front back : List LoadWarning) (w : LoadWarning) (ps : List Printing) :
    (finished o ⟨[], front ++ back, ps⟩).inventory = (finished o ⟨[], front ++ w :: back, ps⟩).inventory ∧
      ∃ later, (finished o ⟨[], front ++ w :: back, ps⟩).warnings = front ++ w :: (back ++ later) ∧
        (finished o ⟨[], front ++ back, ps⟩).warnings = front ++ (back ++ later) := by
  have warned (ws : List LoadWarning) : (finished o ⟨[], ws, ps⟩).warnings =
      ws ++ ((assemble ps).2.map .split ++ formatWarnings o (.ofCards (assemble ps).1)) := List.append_assoc _ _ _
  refine ⟨rfl, _, ?_, (warned _).trans (List.append_assoc _ _ _)⟩
  exact (warned _).trans (List.append_assoc _ _ _)

theorem bad_yield {o : LoadOptions} {d : Dump} {key : String} {i : Nat} (bad : BadCard o d key i) :
    DumpItem.yield o d.form (.card (expansionOf key bad.set) bad.card) = ([bad.warning], []) := by
  have wanted : (DumpItem.card (expansionOf key bad.set) bad.card).isWanted o d.form = true := by
    cases needed : o.needsMultiverseId with
    | false => simp [DumpItem.isWanted, needed]
    | true => simp [DumpItem.isWanted, bad.wanted needed]
  rw [DumpItem.yield, if_pos wanted, DumpItem.found, bad.unread]
  rfl

end Dump

namespace LoadReport

open Dump (BadCard)

theorem of_json_outcome {root : Json} {d : Dump} (read : Dump.ofJson root = .ok d) (o : LoadOptions) :
    (ofJson o none root).result = .ok (d.load o none 0).2 := by
  rw [ofJson, ofJsonAfter, read]
  rfl

/-- A dump of the right layout is loaded whatever its records hold, and a record that cannot be read
    adds one warning to what its dump gives without it, and nothing else. -/
theorem bad_cards_apart (o : LoadOptions) (fields : Fields)
    (layout : (fields.get? "meta").isSome = true → ∃ sets, fields.get? "data" = some (.record sets)) :
    ∃ d outcome, Dump.ofJson (.record fields) = .ok d ∧
      (ofJson o none (.record fields)).result = .ok outcome ∧ outcome.cancelled = false ∧
      ∀ key i (bad : BadCard o d key i), ∃ rest front back,
        (ofJson o none (Dump.withoutCard key i (.record fields))).result = .ok rest ∧
          rest.inventory = outcome.inventory ∧ rest.cancelled = false ∧
          outcome.warnings = front ++ bad.warning :: back ∧ rest.warnings = front ++ back := by
  have read : ∃ d, Dump.ofJson (.record fields) = .ok d := by
    cases wrapped : Json.lookup "meta" fields with
    | none => exact ⟨_, Dump.of_json_bare wrapped⟩
    | some layer =>
      obtain ⟨sets, data⟩ := layout (by rw [Fields.get?, wrapped]; rfl)
      exact ⟨_, Dump.of_json_wrapped wrapped data⟩
  obtain ⟨d, read⟩ := read
  refine ⟨d, _, read, of_json_outcome read o, d.load_kept o, fun key i bad => ?_⟩
  have without := Dump.of_json_without read key i
  obtain ⟨front, back, whole, rest⟩ := Dump.items_without bad (Dump.of_json_increasing read)
  have form : (d.strikeCard key i).form = d.form := rfl
  let warned := fun item : DumpItem => (item.yield o d.form).1
  let kept := fun item : DumpItem => (item.yield o d.form).2
  have outcome : (d.load o none 0).2 = finished o ⟨[], front.flatMap warned ++ bad.warning :: back.flatMap warned,
      front.flatMap kept ++ back.flatMap kept⟩ := by
    rw [d.load_outcome, whole, List.flatMap_append, List.flatMap_cons, List.flatMap_append, List.flatMap_cons,
      Dump.bad_yield bad]
    rfl
  have less : ((d.strikeCard key i).load o none 0).2 = finished o ⟨[], front.flatMap warned ++ back.flatMap warned,
      front.flatMap kept ++ back.flatMap kept⟩ := by
    rw [Dump.load_outcome, rest, form, List.flatMap_append, List.flatMap_append]
  obtain ⟨inventory, later, warnings, fewer⟩ := Dump.finished_without o (front.flatMap warned) (back.flatMap warned)
    bad.warning (front.flatMap kept ++ back.flatMap kept)
  refine ⟨_, front.flatMap warned, back.flatMap warned ++ later, of_json_outcome without o, ?_,
    Dump.load_kept _ o, ?_, ?_⟩
  · rw [outcome, less, inventory]
  · rw [outcome, warnings]
  · rw [less, fewer]

theorem broken_card_apart :
    let trenches : Json := .record [("name", .text "Trenches"), ("rarity", .text "common"), ("uuid", .text "t"),
      ("identifiers", .record [("multiverseId", .integer 1)])]
    let broken : Json := .record [("name", .text "Broken"), ("rarity", .text "legendary"),
      ("identifiers", .record [("multiverseId", .integer 2)])]
    let dump (cards : List Json) : Fields :=
      [("meta", .record []), ("data", .record [("APC", .record [("cards", .list cards)])])]
    let warning : LoadWarning :=
      .skipped "Broken" (Dump.expansionOf "APC" []) (.misread (.rarity "legendary"))
    ∃ outcome rest front back,
      (ofJson .standard none (.record (dump [trenches, broken]))).result = .ok outcome ∧
        (ofJson .standard none (.record (dump [trenches]))).result = .ok rest ∧
        rest.inventory = outcome.inventory ∧ outcome.cancelled = false ∧
        outcome.warnings = front ++ warning :: back ∧ rest.warnings = front ++ back := by
  intro trenches broken dump warning
  obtain ⟨d, outcome, read, result, kept, apart⟩ :=
    bad_cards_apart .standard (dump [trenches, broken]) fun _ => ⟨_, rfl⟩
  obtain rfl : Dump.ofSets .wrapped [("APC", .record [("cards", .list [trenches, broken])])] = d :=
    Except.ok.inj read
  let bad : Dump.BadCard .standard
      (Dump.ofSets .wrapped [("APC", .record [("cards", .list [trenches, broken])])]) "APC" 1 :=
    { set := _, cards := _, card := _, reason := .misread (.rarity "legendary")
      held := .head _, listed := rfl, here := rfl, wanted := fun _ => rfl, unread := rfl }
  obtain ⟨rest, front, back, without, inventory, -, warnings, fewer⟩ := apart "APC" 1 bad
  exact ⟨outcome, rest, front, back, result, without, inventory, kept, warnings, fewer⟩

end LoadReport

end Deckwright
