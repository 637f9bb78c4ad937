import Deckwright.Proofs.Dump.Conservation
import Deckwright.Proofs.Dump.Sets
import Deckwright.Proofs.Text.Replace
set_option autoImplicit false

namespace Deckwright

theorem key_chars (code text : String) : (s!"{code}:{text}").toList = code.toList ++ ':' :: text.toList := by
  rw [signed_chars, List.append_assoc]
  rfl

theorem keys_same_iff {a b s t : String} : s!"{a}:{s}" = s!"{b}:{t}" ↔ a = b ∧ s = t ∨
    (∃ more : String, b = a ++ ":" ++ more ∧ s = more ++ ":" ++ t) ∨
      ∃ more : String, a = b ++ ":" ++ more ∧ t = more ++ ":" ++ s := by
  rw [← String.toList_inj, key_chars, key_chars]
  constructor
  · intro same
    rcases signs_meet same with ⟨codes, texts⟩ | ⟨more, codes, texts⟩ | ⟨more, codes, texts⟩
    · exact .inl ⟨String.ext codes, String.ext texts⟩
    · exact .inr (.inl ⟨String.ofList more, String.ext (by simp [codes]), String.ext (by simp [texts])⟩)
    · exact .inr (.inr ⟨String.ofList more, String.ext (by simp [codes]), String.ext (by simp [texts])⟩)
  · rintro (⟨rfl, rfl⟩ | ⟨more, rfl, rfl⟩ | ⟨more, rfl, rfl⟩)
    · rfl
    · simp
    · simp

theorem Printing.id_of_key_iff (code text : String) : idOfKey s!"{code}:{text}" = text ↔ ':' ∉ code.toList := by
  refine ⟨fun same colon => ?_, fun plain => id_of_key plain text⟩
  obtain ⟨front, back, split, plain⟩ := List.eq_append_cons_of_mem colon
  let early := String.ofList front
  let late := String.ofList (back ++ ':' :: text.toList)
  have key : s!"{code}:{text}" = s!"{early}:{late}" :=
    String.ext (by rw [key_chars, key_chars, split]; simp [early, late])
  rw [key, id_of_key (by simpa [early] using plain)] at same
  have lengths := congrArg (fun s => s.toList.length) same
  simp [late] at lengths
  omega

section Names

variable {ns ms : List String}

theorem slash_between (several : 1 < ns.length) : '/' ∈ (Card.faceSeparator.intercalate ns).toList := by
  match ns with
  | first :: second :: rest =>
    have slash : '/' ∈ Card.faceSeparator.toList := by decide
    rw [String.intercalate_cons_cons]
    simp [slash]

theorem names_told (plain : ∀ n ∈ ns, '/' ∉ n.toList) (plain' : ∀ n ∈ ms, '/' ∉ n.toList) (some : ns ≠ [])
    (some' : ms ≠ []) (same : Card.faceSeparator.intercalate ns = Card.faceSeparator.intercalate ms) : ns = ms := by
  have front {n : String} (clear : '/' ∉ n.toList) (rest : String) :
      Text.cutAt ['/'] (n ++ Card.faceSeparator ++ rest).toList = Option.some (n.toList ++ [' '], '/' :: ' ' :: rest.toList) := by
    have split : (n ++ Card.faceSeparator ++ rest).toList = (n.toList ++ [' ']) ++ '/' :: ('/' :: ' ' :: rest.toList) := by
      simp [Card.faceSeparator]
    rw [split]
    exact Text.cut_at_sign (by simpa using clear) _
  induction ns generalizing ms with
  | nil => exact absurd rfl some
  | cons n ns ih =>
    obtain ⟨m, ms, rfl⟩ := List.exists_cons_of_ne_nil some'
    obtain ⟨clear, later⟩ := List.forall_mem_cons.1 plain
    obtain ⟨clear', later'⟩ := List.forall_mem_cons.1 plain'
    cases ns with
    | nil =>
      cases ms with
      | nil =>
        rw [String.intercalate_singleton, String.intercalate_singleton] at same
        rw [same]
      | cons m' ms =>
        have slash : '/' ∈ (Card.faceSeparator.intercalate (m :: m' :: ms)).toList := slash_between (by simp)
        rw [← same, String.intercalate_singleton] at slash
        exact absurd slash clear
    | cons n' ns =>
      cases ms with
      | nil =>
        have slash : '/' ∈ (Card.faceSeparator.intercalate (n :: n' :: ns)).toList := slash_between (by simp)
        rw [same, String.intercalate_singleton] at slash
        exact absurd slash clear'
      | cons m' ms =>
        rw [String.intercalate_cons_cons, String.intercalate_cons_cons] at same
        have cut := (front clear _).symm.trans ((congrArg (Text.cutAt ['/'] ·.toList) same).trans (front clear' _))
        obtain ⟨first, behind⟩ := Prod.mk.inj (Option.some.inj cut)
        rw [String.ext (List.append_cancel_right first),
          ih later later' (by simp) (by simp) (String.ext (by simpa using behind))]

theorem split_joined (full : String) :
    Card.faceSeparator.intercalate ((Text.splitAt Card.faceSeparator.toList full.toList).map String.ofList) = full := by
  have join (pieces : List (List Char)) : Text.joinWith Card.faceSeparator.toList pieces =
      Card.faceSeparator.toList.intercalate pieces := by
    induction pieces with
    | nil => rfl
    | cons piece rest ih =>
      cases rest with
      | nil => simp [Text.joinWith]
      | cons next rest => rw [List.intercalate_cons_cons, ← ih, Text.joinWith]; simp
  refine String.ext ?_
  rw [String.toList_intercalate, List.map_map, String.toList_comp_ofList, List.map_id, ← join]
  exact Text.pieces_join (by decide) full.toList

end Names

structure CardRecord where
  expansion : Expansion
  fields : Fields

namespace CardRecord

variable (form : DumpForm) (r s : CardRecord)

def id? : Option String := Printing.scryfallId? form r.fields

def names? : Option (List String) :=
  (Printing.faceName? r.fields).bind fun name => (Printing.namesOf form r.fields name).toOption

def ownText? : Option String :=
  (r.id? form).or (((r.names? form).filter fun names => names.length > 1).map Card.faceSeparator.intercalate)

def Gives (p : Printing) : Prop := Printing.read form r.expansion r.fields = .ok p

def OnePrinting : Prop :=
  r.expansion.code = s.expansion.code ∧
    ((∃ id, r.id? form = some id ∧ s.id? form = some id) ∨
      r.id? form = none ∧ s.id? form = none ∧ r.names? form = s.names? form)

def RunsInto : Prop := ∃ more text : String, s.expansion.code = r.expansion.code ++ ":" ++ more ∧
  s.ownText? form = some text ∧ r.ownText? form = some (more ++ ":" ++ text)

def ReadsAs : Prop :=
  r.expansion.code = s.expansion.code ∧ (∃ text, r.ownText? form = some text ∧ s.ownText? form = some text) ∧
    ((r.id? form).isSome ≠ (s.id? form).isSome ∨
      r.id? form = none ∧ s.id? form = none ∧ r.names? form ≠ s.names? form)

def Blurred : Prop := RunsInto form r s ∨ RunsInto form s r ∨ ReadsAs form r s

structure Plain : Prop where
  code : ':' ∉ r.expansion.code.toList
  id : ∀ id, r.id? form = some id → '/' ∉ id.toList
  names : form = .bare → ∀ names, r.names? form = some names → ∀ name ∈ names, '/' ∉ name.toList

variable {form r s}

theorem one_printing_or_reads (codes : r.expansion.code = s.expansion.code) {text : String}
    (here : r.ownText? form = some text) (there : s.ownText? form = some text) :
    OnePrinting form r s ∨ ReadsAs form r s := by
  have reads (differ : (r.id? form).isSome ≠ (s.id? form).isSome ∨
      r.id? form = none ∧ s.id? form = none ∧ r.names? form ≠ s.names? form) : OnePrinting form r s ∨ ReadsAs form r s :=
    .inr ⟨codes, ⟨text, here, there⟩, differ⟩
  cases first : r.id? form with
  | some id =>
    cases second : s.id? form with
    | some id' =>
      rw [ownText?, first, Option.some_or] at here
      rw [ownText?, second, Option.some_or] at there
      exact .inl ⟨codes, .inl ⟨text, first.trans here, second.trans there⟩⟩
    | none => exact reads (.inl (by simp [first, second]))
  | none =>
    cases second : s.id? form with
    | some id' => exact reads (.inl (by simp [first, second]))
    | none =>
      by_cases names : r.names? form = s.names? form
      · exact .inl ⟨codes, .inr ⟨first, second, names⟩⟩
      · exact reads (.inr ⟨first, second, names⟩)

theorem OnePrinting.same_text (one : OnePrinting form r s) : r.ownText? form = s.ownText? form := by
  rcases one.2 with ⟨id, first, second⟩ | ⟨first, second, names⟩
  · rw [ownText?, ownText?, first, second, Option.some_or, Option.some_or]
  · rw [ownText?, ownText?, first, second, names]

theorem same_key_iff {own other : String} (here : r.ownText? form = some own) (there : s.ownText? form = some other) :
    s!"{r.expansion.code}:{own}" = s!"{s.expansion.code}:{other}" ↔ OnePrinting form r s ∨ Blurred form r s := by
  rw [keys_same_iff]
  constructor
  · rintro (⟨codes, rfl⟩ | ⟨more, codes, rfl⟩ | ⟨more, codes, rfl⟩)
    · exact (one_printing_or_reads codes here there).imp_right fun reads => .inr (.inr reads)
    · exact .inr (.inl ⟨more, other, codes, there, here⟩)
    · exact .inr (.inr (.inl ⟨more, own, codes, here, there⟩))
  · rintro (one | ⟨more, t, codes, second, first⟩ | ⟨more, t, codes, second, first⟩ | ⟨codes, ⟨t, first, second⟩, _⟩)
    · exact .inl ⟨one.1, Option.some.inj (here.symm.trans (one.same_text.trans there))⟩
    · obtain rfl := Option.some.inj (there.symm.trans second)
      exact .inr (.inl ⟨more, codes, Option.some.inj (here.symm.trans first)⟩)
    · obtain rfl := Option.some.inj (here.symm.trans second)
      exact .inr (.inr ⟨more, codes, Option.some.inj (there.symm.trans first)⟩)
    · exact .inl ⟨codes, Option.some.inj (here.symm.trans (first.trans (second.symm.trans there)))⟩

theorem Gives.key {p : Printing} {key : String} (gives : r.Gives form p) (joins : p.joinKey = some key) :
    ∃ text, r.ownText? form = some text ∧ key = s!"{r.expansion.code}:{text}" := by
  obtain ⟨_, _, name, names, named, listed, same⟩ := Printing.read_ids gives
  rw [joins, Printing.joinKeyOf] at same
  split at same
  · obtain ⟨text, own, rfl⟩ := Option.map_eq_some_iff.1 same.symm
    refine ⟨text, ?_, rfl⟩
    have known : r.names? form = some names := by
      rw [names?, named, Option.bind_some, listed]
      rfl
    rw [← own, ownText?, known, Option.filter_some, id?]
    by_cases several : names.length > 1 <;> simp [several]
  · cases same

theorem Blurred.other (blurred : Blurred form r s) : ¬ OnePrinting form r s := by
  have longer {a b more : String} (codes : b = a ++ ":" ++ more) : a ≠ b := by
    intro same
    have lengths := congrArg (fun s => s.toList.length) (same.trans codes)
    simp at lengths
  rintro ⟨codes, texts⟩
  rcases blurred with ⟨_, _, behind, _⟩ | ⟨_, _, behind, _⟩ | ⟨_, _, differ⟩
  · exact longer behind codes
  · exact longer behind codes.symm
  · rcases texts with ⟨id, first, second⟩ | ⟨first, second, names⟩
    · simp [first, second] at differ
    · simp [first, second, names] at differ

theorem names_of_text {text : String} (own : r.ownText? form = some text) (idless : r.id? form = none) :
    ∃ names, r.names? form = some names ∧ 1 < names.length ∧ Card.faceSeparator.intercalate names = text := by
  rw [ownText?, idless, Option.none_or, Option.map_eq_some_iff] at own
  obtain ⟨names, known, joined⟩ := own
  obtain ⟨known, several⟩ := Option.filter_eq_some_iff.1 known
  exact ⟨names, known, of_decide_eq_true several, joined⟩

theorem Plain.names_told (plain : r.Plain form) (plain' : s.Plain form) {ns ms : List String}
    (here : r.names? form = some ns) (there : s.names? form = some ms) (several : 1 < ns.length) (several' : 1 < ms.length)
    (same : Card.faceSeparator.intercalate ns = Card.faceSeparator.intercalate ms) : ns = ms := by
  cases form with
  | bare =>
    exact Deckwright.names_told (plain.names rfl ns here) (plain'.names rfl ms there)
      (List.length_pos_iff.1 (Nat.zero_lt_of_lt several)) (List.length_pos_iff.1 (Nat.zero_lt_of_lt several')) same
  | wrapped =>
    have split {t : CardRecord} {names : List String} (known : t.names? .wrapped = some names) :
        ∃ full : String, names = (Text.splitAt Card.faceSeparator.toList full.toList).map String.ofList := by
      obtain ⟨name, _, listed⟩ := Option.bind_eq_some_iff.1 known
      exact ⟨_, (Option.some.inj listed).symm⟩
    obtain ⟨full, rfl⟩ := split here
    obtain ⟨full', rfl⟩ := split there
    rw [split_joined, split_joined] at same
    rw [same]

theorem Blurred.not_plain (blurred : Blurred form r s) (plain : r.Plain form) : ¬ s.Plain form := by
  intro plain'
  have colon_inside {a more : String} : ':' ∈ (a ++ ":" ++ more).toList := by simp
  have slash_inside {t u : CardRecord} {text id : String} (plain : t.Plain form) (named : t.id? form = some id)
      (here : t.ownText? form = some text) (idless : u.id? form = none) (there : u.ownText? form = some text) : False := by
    obtain ⟨names, _, several, rfl⟩ := names_of_text there idless
    rw [ownText?, named, Option.some_or] at here
    exact plain.id id named (Option.some.inj here ▸ slash_between several)
  rcases blurred with ⟨_, _, codes, _⟩ | ⟨_, _, codes, _⟩ | ⟨_, ⟨text, here, there⟩, differ⟩
  · exact plain'.code (codes ▸ colon_inside)
  · exact plain.code (codes ▸ colon_inside)
  · rcases differ with differ | ⟨idless, idless', differ⟩
    · cases named : r.id? form with
      | some id =>
        cases named' : s.id? form with
        | some id' => simp [named, named'] at differ
        | none => exact slash_inside plain named here named' there
      | none =>
        cases named' : s.id? form with
        | some id' => exact slash_inside plain' named' there named here
        | none => simp [named, named'] at differ
    · obtain ⟨ns, known, several, joined⟩ := names_of_text here idless
      obtain ⟨ms, known', several', joined'⟩ := names_of_text there idless'
      have same := plain.names_told plain' known known' several several' (joined.trans joined'.symm)
      exact differ (by rw [known, known', same])

end CardRecord

/-- A card of printings that were read from records. If they are several, each two of them are of one
    printing or of keys that run together, and the id of the card is theirs if their set has a plain code. -/
structure Card.OfRecords (form : DumpForm) (c : Card) (part : List Printing) : Prop where
  faces : c.faces = part.map fun p => p.face.completed
  alike : 2 ≤ part.length → ∀ p ∈ part, ∀ q ∈ part, ∀ r s : CardRecord, r.Gives form p → s.Gives form q →
    CardRecord.OnePrinting form r s ∨ CardRecord.Blurred form r s
  id : 2 ≤ part.length → ∀ p ∈ part, ∀ r : CardRecord, r.Gives form p →
    (some c.id = r.ownText? form ↔ ':' ∉ r.expansion.code.toList)

theorem Card.PutTogether.of_records {form : DumpForm} {c : Card} {part : List Printing} (together : c.PutTogether part) :
    c.OfRecords form part := by
  refine ⟨together.faces, fun several p here q there r s gives gives' => ?_, fun several p here r gives => ?_⟩
  · obtain ⟨key, joins, _⟩ := together.key several
    obtain ⟨text, own, rfl⟩ := gives.key (joins p here)
    obtain ⟨text', own', same⟩ := gives'.key (joins q there)
    exact (CardRecord.same_key_iff own own').1 same
  · obtain ⟨key, joins, id⟩ := together.key several
    obtain ⟨text, own, rfl⟩ := gives.key (joins p here)
    rw [own, id, Option.some_inj]
    exact Printing.id_of_key_iff r.expansion.code text

namespace Dump

/-- Every printing of a dump goes into one card of its load. Records become faces of one card only if they are of
    one printing, except that a code with a colon runs on into an id or names, and an id reads like names, or names
    like other ones; this does not happen to plain texts. The id of such a card is that of its printing, or
    else the names of its faces, just when the code of its set has no colon. -/
theorem joined_of_one_printing (d : Dump) (o : LoadOptions) :
    (d.load o none 0).2.inventory = .ofCards (d.cards o) ∧
      (∀ p ∈ d.printings o, ∃ r : CardRecord, .card r.expansion r.fields ∈ d.items ∧ r.Gives d.form p) ∧
      (∃ parts : List (List Printing), parts.flatten.Perm (d.printings o) ∧
        List.Forall₂ (Card.OfRecords d.form) (d.cards o) parts) ∧
      ∀ r s : CardRecord, CardRecord.Blurred d.form r s →
        ¬ CardRecord.OnePrinting d.form r s ∧ (r.Plain d.form → ¬ s.Plain d.form) := by
  refine ⟨?_, fun p member => ?_, ?_, fun r s blurred => ⟨blurred.other, blurred.not_plain⟩⟩
  · rw [d.load_outcome]
    rfl
  · obtain ⟨e, card, inside, found⟩ := printings_read member
    exact ⟨⟨e, card⟩, inside, found⟩
  · obtain ⟨parts, whole, together⟩ := assemble_parts (d.printings o)
    exact ⟨parts, whole, together.imp fun c part here => here.of_records⟩

-- Fire is of the set A and Ice of the set A:B, and their ids differ.
theorem fire_joins_ice :
    let record (name side id : String) : Fields := [("faceName", .text name), ("side", .text side),
      ("layout", .text "split"), ("rarity", .text "uncommon"), ("identifiers", .record [("scryfallId", .text id)])]
    let set (card : Fields) : Json := .record [("cards", .list [.record card])]
    let d : Dump := ⟨.wrapped, [("A", set (record "Fire" "a" "B:x")), ("A:B", set (record "Ice" "b" "x"))]⟩
    let o : LoadOptions := ⟨false, true, 1, []⟩
    let r : CardRecord := ⟨expansionOf "A" [], record "Fire" "a" "B:x"⟩
    let s : CardRecord := ⟨expansionOf "A:B" [], record "Ice" "b" "x"⟩
    d.items = [.set r.expansion, .card r.expansion r.fields, .set s.expansion, .card s.expansion s.fields] ∧
      ¬ CardRecord.OnePrinting d.form r s ∧ s.id? d.form = some "x" ∧
      ∃ c, d.cards o = [c] ∧ c.faces.map Face.name = ["Fire", "Ice"] ∧ c.id = "B:x" := by
  intro record set d o r s
  let printing (code name id : String) (order : Nat) : Printing :=
    ⟨some id, some "A:B:x", order, .split, Face.ofName name, .uncommon, .colorless, none, [], none, expansionOf code []⟩
  have slots : Slot.ofPrintings (d.printings o) =
      [.faces "A:B:x" [printing "A" "Fire" "B:x" 0, printing "A:B" "Ice" "x" 1]] := by
    decide +kernel
  have key : Printing.idOfKey "A:B:x" = "B:x" := by decide +kernel
  have card : d.cards o =
      [Printing.joined "B:x" .split (printing "A" "Fire" "B:x" 0) [printing "A:B" "Ice" "x" 1]] := by
    rw [cards, assemble, slots, List.map_cons, Slot.cards_two (by decide) (by decide), key]
    rfl
  have runs : CardRecord.RunsInto d.form r s := ⟨"B", "x", by decide, by decide +kernel, by decide +kernel⟩
  obtain ⟨_, _, _, blurred⟩ := joined_of_one_printing d o
  exact ⟨rfl, (blurred r s (.inl runs)).1, by decide +kernel, _, card, by decide +kernel, rfl⟩

end Dump

end Deckwright
