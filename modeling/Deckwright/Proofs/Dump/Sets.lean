import Deckwright.Proofs.Catalog.Inventory
import Deckwright.Proofs.Dump.Assembly
import Deckwright.Proofs.Dump.Isolation
import Deckwright.Proofs.Outcome
import Deckwright.Proofs.Text.Search
set_option autoImplicit false

namespace Deckwright

def Continues (a b : String) : Prop := ∃ sign ∈ ['-', ':'], a.toList ++ [sign] <+: b.toList

def Confusable (a b : String) : Prop := Continues a b ∨ Continues b a

theorem signs_meet {sign : Char} {a b s t : List Char} (same : a ++ sign :: s = b ++ sign :: t) :
    a = b ∧ s = t ∨ (∃ more, b = a ++ sign :: more ∧ s = more ++ sign :: t) ∨
      ∃ more, a = b ++ sign :: more ∧ t = more ++ sign :: s := by
  rcases List.append_eq_append_iff.1 same with ⟨mid, longer, rest⟩ | ⟨mid, longer, rest⟩
  · cases mid with
    | nil => exact .inl ⟨by rw [longer, List.append_nil], (List.cons.inj rest).2⟩
    | cons c more =>
      obtain ⟨rfl, behind⟩ := List.cons.inj rest
      exact .inr (.inl ⟨more, longer, behind⟩)
  · cases mid with
    | nil => exact .inl ⟨by rw [longer, List.append_nil], (List.cons.inj rest).2.symm⟩
    | cons c more =>
      obtain ⟨rfl, behind⟩ := List.cons.inj rest
      exact .inr (.inr ⟨more, longer, behind⟩)

theorem code_told {a b : String} {sign : Char} {s t : List Char} (ends : sign ∈ ['-', ':'])
    (same : a.toList ++ sign :: s = b.toList ++ sign :: t) : a = b ∨ Confusable a b := by
  rcases signs_meet same with ⟨codes, _⟩ | ⟨more, longer, _⟩ | ⟨more, longer, _⟩
  · exact .inl (String.ext codes)
  · exact .inr (.inl ⟨sign, ends, more, by rw [longer]; simp⟩)
  · exact .inr (.inr ⟨sign, ends, more, by rw [longer]; simp⟩)

theorem signed_chars (code sign rest : String) :
    (toString code ++ toString sign ++ toString rest).toList = code.toList ++ sign.toList ++ rest.toList := by
  rw [String.toList_append, String.toList_append]
  rfl

namespace Printing

variable {form : DumpForm} {e : Expansion} {card : Fields} {p q : Printing}

theorem read_ids (found : read form e card = .ok p) :
    p.expansion = e ∧ p.id = (scryfallId? form card).or (card.text? "uuid") ∧
      ∃ name names, faceName? card = some name ∧ namesOf form card name = .ok names ∧
        p.joinKey = joinKeyOf e p.layout (scryfallId? form card) names := by
  unfold read at found
  obtain ⟨name, named, found⟩ := bind_ok.1 found
  obtain ⟨layout, _, found⟩ := bind_ok.1 found
  obtain ⟨rarityText, _, found⟩ := bind_ok.1 found
  obtain ⟨rarity, _, found⟩ := bind_ok.1 found
  obtain ⟨face, _, found⟩ := bind_ok.1 found
  obtain ⟨legality, _, found⟩ := bind_ok.1 found
  obtain ⟨names, listed, found⟩ := bind_ok.1 found
  obtain ⟨identity, _, found⟩ := bind_ok.1 found
  obtain rfl := Except.ok.inj found
  have some_name : faceName? card = some name := by
    cases here : faceName? card with
    | none => simp [here] at named
    | some n => simpa [here] using named
  exact ⟨rfl, rfl, name, names, some_name, listed, rfl⟩

def Keyed (p : Printing) : Prop := ∀ key, p.joinKey = some key →
  ∃ names : String, key = s!"{p.expansion.code}:{names}"

theorem read_keyed (found : read form e card = .ok p) : p.Keyed := by
  obtain ⟨rfl, _, _, names, _, _, joins⟩ := read_ids found
  intro key same
  rw [joins, joinKeyOf] at same
  split at same
  · obtain ⟨own, _, rfl⟩ := Option.map_eq_some_iff.1 same
    exact ⟨own, rfl⟩
  · cases same

theorem keys_told {key : String} (keyed : p.Keyed) (keyed' : q.Keyed) (here : p.joinKey = some key)
    (there : q.joinKey = some key) :
    p.expansion.code = q.expansion.code ∨ Confusable p.expansion.code q.expansion.code := by
  obtain ⟨names, rfl⟩ := keyed key here
  obtain ⟨names', same⟩ := keyed' _ there
  have chars := congrArg String.toList same
  rw [signed_chars, signed_chars, List.append_assoc, List.append_assoc] at chars
  exact code_told (by decide) chars

theorem id_of_key {code : String} (plain : ':' ∉ code.toList) (names : String) :
    idOfKey s!"{code}:{names}" = names := by
  rw [idOfKey, signed_chars, List.append_assoc]
  have cut : Text.cutAt [':'] (code.toList ++ (":".toList ++ names.toList)) = some (code.toList, names.toList) :=
    Text.cut_at_sign plain names.toList
  rw [cut]
  exact String.ofList_toList

end Printing

namespace Card

variable {b c : Card} {p q : Printing}

theorem Lone.id_starts (lone : c.Lone p) : ∃ rest, c.id.toList = c.expansion.code.toList ++ '-' :: rest := by
  obtain ⟨ending, id⟩ := lone.id
  refine ⟨p.face.number.toList ++ '-' :: p.face.name.toList ++ String.toList ending, ?_⟩
  rw [id, lone.expansion, Printing.ownId]
  simp [toString]

theorem lone_told (here : b.Lone p) (there : c.Lone q) (same : b.id = c.id) :
    b.expansion.code = c.expansion.code ∨ Confusable b.expansion.code c.expansion.code := by
  obtain ⟨s, front⟩ := here.id_starts
  obtain ⟨t, behind⟩ := there.id_starts
  exact code_told (by decide) (front.symm.trans ((congrArg String.toList same).trans behind))

end Card

namespace Dump

variable {d : Dump} {o : LoadOptions}

def Idless (d : Dump) : Prop :=
  ∀ card ∈ d.records, Printing.scryfallId? d.form card = none ∧ card.text? "uuid" = none

def printings (d : Dump) (o : LoadOptions) : List Printing := d.items.flatMap fun item => (item.yield o d.form).2

def cards (d : Dump) (o : LoadOptions) : List Card := (assemble (d.printings o)).1

theorem mem_records {e : Expansion} {card : Fields} (member : .card e card ∈ d.items) : card ∈ d.records := by
  obtain ⟨entry, inside, here⟩ := List.mem_flatMap.1 member
  unfold DumpItem.ofSet at here
  split at here
  · simp at here
  · rename_i fields layout
    obtain ⟨j, listed, same⟩ := by simpa using here
    unfold DumpItem.ofCard at same
    split at same
    · rename_i fields' record
      cases same
      refine List.mem_filterMap.2 ⟨j, List.mem_flatMap.2 ⟨entry, inside, ?_⟩, record⟩
      rw [Json.field?, ← Fields.ofJson?, layout]
      exact listed
    · cases same

theorem printings_read {p : Printing} (member : p ∈ d.printings o) :
    ∃ e card, .card e card ∈ d.items ∧ Printing.read d.form e card = .ok p := by
  obtain ⟨item, inside, given⟩ := List.mem_flatMap.1 member
  cases item with
  | card e card =>
    refine ⟨e, card, inside, ?_⟩
    rw [DumpItem.yield] at given
    split at given
    · rw [DumpItem.found] at given
      split at given
      · rename_i q found
        rw [found, List.mem_singleton.1 given]
      · cases given
    · cases given
  | _ => cases given

theorem printings_idless (idless : d.Idless) : ∀ p ∈ d.printings o, p.id = none := by
  intro p member
  obtain ⟨e, card, inside, found⟩ := printings_read member
  obtain ⟨scryfall, uuid⟩ := idless card (mem_records inside)
  rw [(Printing.read_ids found).2.1, scryfall, uuid]
  rfl

theorem cards_origin (idless : d.Idless) {c : Card} (member : c ∈ d.cards o) :
    ∃ p ∈ d.printings o, c.Lone p ∨ c.Joined p := by
  obtain ⟨made, slots, inside⟩ := List.mem_flatMap.1 member
  obtain ⟨slot, opened, rfl⟩ := List.mem_map.1 slots
  have holds := Slot.of_printings_holds (d.printings o) slot opened
  obtain ⟨p, among, origin⟩ := Slot.cards_origin holds (printings_idless idless) inside
  exact ⟨p, holds.among among, origin⟩

theorem cards_told (idless : d.Idless) {b c : Card} (front : b ∈ d.cards o) (behind : c ∈ d.cards o)
    (other : b.expansion.code ≠ c.expansion.code) (same : b.id = c.id) :
    2 ≤ b.faces.length ∨ 2 ≤ c.faces.length ∨ Confusable b.expansion.code c.expansion.code := by
  obtain ⟨p, _, here | here⟩ := cards_origin idless front
  · obtain ⟨q, _, there | there⟩ := cards_origin idless behind
    · exact .inr (.inr ((Card.lone_told here there same).resolve_left other))
    · exact .inr (.inl there.several)
  · exact .inl here.several

end Dump

namespace LoadReport

/-- A dump without ids is loaded to the first card of each id. The printings of one card are of one set,
    and of two cards of one face each none takes the place of the other if they are of different sets,
    unless the code of one set goes on behind that of the other. A card of several faces has no code in
    its id, only the names: it is kept as long as no earlier card of another set has them for its id. -/
theorem sets_apart {root : Json} {d : Dump} (read : Dump.ofJson root = .ok d) (idless : d.Idless) (o : LoadOptions) :
    ∃ outcome, (ofJson o none root).result = .ok outcome ∧ outcome.cancelled = false ∧
      outcome.inventory = .ofCards (d.cards o) ∧
      (∀ slot ∈ Slot.ofPrintings (d.printings o), ∀ p ∈ slot.printings, ∀ q ∈ slot.printings,
        p.expansion.code = q.expansion.code ∨ Confusable p.expansion.code q.expansion.code) ∧
      (∀ c ∈ d.cards o, 2 ≤ c.faces.length → ':' ∉ c.expansion.code.toList →
        ∃ p ∈ d.printings o, p.expansion = c.expansion ∧ p.joinKey = some s!"{c.expansion.code}:{c.id}") ∧
      ∀ front c back, d.cards o = front ++ c :: back →
        (∀ b ∈ front, b.expansion.code = c.expansion.code → b.id ≠ c.id) →
        (c ∈ outcome.inventory.cards ↔ ∀ b ∈ front, b.expansion.code ≠ c.expansion.code →
          2 ≤ b.faces.length ∨ 2 ≤ c.faces.length ∨ Confusable b.expansion.code c.expansion.code → b.id ≠ c.id) := by
  have inventory : (d.load o none 0).2.inventory = .ofCards (d.cards o) := by
    rw [d.load_outcome]
    rfl
  refine ⟨_, of_json_outcome read o, d.load_kept o, inventory, ?_, ?_, ?_⟩
  · intro slot opened p here q there
    have holds := Slot.of_printings_holds (d.printings o) slot opened
    obtain ⟨_, _, _, found⟩ := Dump.printings_read (holds.among here)
    obtain ⟨_, _, _, found'⟩ := Dump.printings_read (holds.among there)
    cases slot with
    | single r => exact .inl (by rw [List.mem_singleton.1 here, List.mem_singleton.1 there])
    | faces key ps =>
      exact Printing.keys_told (Printing.read_keyed found) (Printing.read_keyed found') (holds.keyed p here)
        (holds.keyed q there)
  · intro c member several plain
    obtain ⟨p, among, lone | ⟨_, expansion, key, joins, id⟩⟩ := Dump.cards_origin idless member
    · exact absurd several (by rw [lone.single]; decide)
    · obtain ⟨_, _, _, found⟩ := Dump.printings_read among
      obtain ⟨names, rfl⟩ := Printing.read_keyed found key joins
      refine ⟨p, among, expansion.symm, ?_⟩
      rw [id, expansion, Printing.id_of_key (expansion ▸ plain), joins]
  · intro front c back split first
    have new : c ∉ front := fun again => first c again rfl rfl
    have inside : ∀ b ∈ front, b ∈ d.cards o := fun b member => by rw [split]; exact List.mem_append_left _ member
    have here : c ∈ d.cards o := by rw [split]; exact List.mem_append_right _ List.mem_cons_self
    rw [inventory, Inventory.ofCards, split]
    dsimp only
    rw [first_of_each_id_kept new]
    refine ⟨fun apart b member _ _ => apart b member, fun apart b member same => ?_⟩
    by_cases code : b.expansion.code = c.expansion.code
    · exact first b member code same
    · exact apart b member code (Dump.cards_told idless (inside b member) here code same) same

-- The second set prints the two halves again, and its card is dropped for the first.
theorem fire_ice_gives_way :
    let record (name side : String) : Json := .record [("name", .text "Fire // Ice"), ("faceName", .text name),
      ("side", .text side), ("layout", .text "split"), ("rarity", .text "uncommon")]
    let set : Json := .record [("cards", .list [record "Fire" "a", record "Ice" "b"])]
    let root : Json := .record [("meta", .record []), ("data", .record [("APC", set), ("DMR", set)])]
    let d : Dump := .ofSets .wrapped [("APC", set), ("DMR", set)]
    let o : LoadOptions := ⟨false, true, 1, []⟩
    d.Idless ∧ ∃ apc dmr outcome, d.cards o = [apc, dmr] ∧ apc.expansion.code = "APC" ∧
      dmr.expansion.code = "DMR" ∧ (ofJson o none root).result = .ok outcome ∧ outcome.cancelled = false ∧
      apc ∈ outcome.inventory.cards ∧ dmr ∉ outcome.inventory.cards := by
  intro record set root d o
  have idless : d.Idless := by
    unfold Dump.Idless
    decide +kernel
  let printing (code name : String) (order : Nat) : Printing :=
    ⟨none, some s!"{code}:Fire // Ice", order, .split, Face.ofName name, .uncommon, .colorless, none, [], none,
      Dump.expansionOf code []⟩
  let card (code : String) : Card :=
    Printing.joined "Fire // Ice" .split (printing code "Fire" 0) [printing code "Ice" 1]
  have slots : Slot.ofPrintings (d.printings o) =
      [.faces "APC:Fire // Ice" [printing "APC" "Fire" 0, printing "APC" "Ice" 1],
        .faces "DMR:Fire // Ice" [printing "DMR" "Fire" 0, printing "DMR" "Ice" 1]] := by
    decide +kernel
  have cards : d.cards o = [card "APC", card "DMR"] := by
    have apc : Printing.idOfKey "APC:Fire // Ice" = "Fire // Ice" := by decide +kernel
    have dmr : Printing.idOfKey "DMR:Fire // Ice" = "Fire // Ice" := by decide +kernel
    rw [Dump.cards, assemble, slots, List.map_cons, List.map_cons, Slot.cards_two (by decide) (by decide),
      Slot.cards_two (by decide) (by decide), apc, dmr]
    rfl
  have codes : (card "APC").expansion.code ≠ (card "DMR").expansion.code := by decide
  have read : Dump.ofJson root = .ok d := rfl
  obtain ⟨outcome, result, kept, _, _, _, apart⟩ := sets_apart read idless o
  refine ⟨idless, card "APC", card "DMR", outcome, cards, rfl, rfl, result, kept, ?_, fun here => ?_⟩
  · exact (apart [] (card "APC") [card "DMR"] cards (by simp)).2 (by simp)
  · have first : ∀ b ∈ [card "APC"], b.expansion.code = (card "DMR").expansion.code → b.id ≠ (card "DMR").id := by
      simpa using fun same => absurd same codes
    exact (apart [card "APC"] (card "DMR") [] cards first).1 here (card "APC") List.mem_cons_self codes
      (.inl (by decide)) rfl

end LoadReport

end Deckwright
