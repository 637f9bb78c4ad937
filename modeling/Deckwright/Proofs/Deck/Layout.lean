import Deckwright.Proofs.Deck.LineFile
import Deckwright.Proofs.Deck.Tally
import Mathlib.Data.List.Basic
set_option autoImplicit false

namespace Deckwright

namespace LineFile

open DeckRecord (addEntry)

def TellsCount (l : List Char) (n : Nat) : Prop := Text.readNatural sizeLimit (Text.trim l) = .ok n

def TellsEntry (l : List Char) (r : EntryRecord) : Prop :=
  ∃ front back, Text.cutAt ['\t'] (Text.trimEnd l) = some (front, back) ∧
    r.id = String.ofList (Text.unescape front) ∧ ∀ number, readCopies number back = .ok r.count

def TellsCategory (l : List Char) (spec : CategorySpec) : Prop := ∀ number, readCategory number l = .ok spec

/-- The lines tell the record: the number of its entries, a line for each, the number of its categories
    and a line for each. What stands behind them tells nothing. -/
def Laid (lines : List (Option (List Char))) (r : DeckRecord) : Prop :=
  ∃ (head middle : List Char) (entries categories : List (List Char)) (rest : List (Option (List Char))),
    lines = (head :: entries ++ middle :: categories).map some ++ rest ∧
      TellsCount head r.cards.length ∧ List.Forall₂ TellsEntry entries r.cards ∧
      TellsCount middle r.categories.length ∧ List.Forall₂ TellsCategory categories r.categories

section Lines

variable {inventory : Inventory} {number : Nat} {l : List Char} {d full : Deck}

theorem read_count_iff {n : Nat} : readCount number l = .ok n ↔ TellsCount l n := by
  rw [readCount, TellsCount]
  cases Text.readNatural sizeLimit (Text.trim l) with
  | ok m => simp
  | error e => exact iff_of_false nofun nofun

theorem copies_anywhere {s : List Char} {n : UInt32} (read : readCopies number s = .ok n) (other : Nat) :
    readCopies other s = .ok n := by
  revert read
  rw [readCopies, readCopies]
  cases Text.readNatural (UInt32.size - 1) (Text.trim s) with
  | error e => exact nofun
  | ok m =>
    cases m with
    | zero => exact nofun
    | succ m => exact id

theorem category_anywhere {spec : CategorySpec} (read : readCategory number l = .ok spec) :
    TellsCategory l spec := by
  intro other
  revert read
  rw [readCategory, readCategory]
  cases Text.cutUnescaped '<' l with
  | none => exact nofun
  | some parts =>
    dsimp only
    cases takeIds ('<' :: parts.2) with
    | error e => exact nofun
    | ok white =>
      dsimp only
      cases takeIds white.2 with
      | error e => exact nofun
      | ok black => exact id

theorem read_entry_iff : readEntry inventory d number l = .ok full ↔
    ∃ r, TellsEntry l r ∧ addEntry inventory d r = .ok full := by
  constructor
  · intro read
    rw [readEntry] at read
    cases cut : Text.cutAt ['\t'] (Text.trimEnd l) with
    | none =>
      rw [cut] at read
      cases read
    | some parts =>
      obtain ⟨front, back⟩ := parts
      rw [cut] at read
      dsimp only at read
      cases counted : readCopies number back with
      | error e =>
        rw [counted] at read
        cases read
      | ok n =>
        rw [counted] at read
        dsimp only at read
        refine ⟨⟨String.ofList (Text.unescape front), n⟩, ⟨front, back, cut, rfl, copies_anywhere counted⟩,
          Deck.add_entry_iff.2 ?_⟩
        cases found : inventory.get? (String.ofList (Text.unescape front)) with
        | none =>
          rw [found] at read
          cases read
        | some card =>
          rw [found] at read
          exact ⟨card, rfl, Deck.taken_iff.1 read⟩
  · rintro ⟨r, ⟨front, back, cut, named, counted⟩, added⟩
    obtain ⟨card, found, taken⟩ := Deck.add_entry_iff.1 added
    rw [readEntry, cut]
    dsimp only
    rw [counted number]
    dsimp only
    rw [← named, found]
    exact Deck.taken_iff.2 taken

theorem read_entries_iff {n : Nat} {lines : List (Option (List Char))} {rest : Rest} :
    readEntries inventory n d ⟨number, lines⟩ = .ok (full, rest) ↔
      ∃ ls rs back, lines = ls.map some ++ back ∧ rs.length = n ∧ List.Forall₂ TellsEntry ls rs ∧
        rs.foldlM (addEntry inventory) d = .ok full ∧ rest = ⟨number + n, back⟩ := by
  induction n generalizing d number lines with
  | zero =>
    constructor
    · intro read
      obtain ⟨rfl, rfl⟩ := Prod.mk.inj (Except.ok.inj read)
      exact ⟨[], [], lines, rfl, rfl, .nil, rfl, rfl⟩
    · rintro ⟨ls, rs, back, rfl, none, told, folded, rfl⟩
      obtain rfl := List.eq_nil_of_length_eq_zero none
      cases told
      obtain rfl := Except.ok.inj folded
      rfl
  | succ n ih =>
    rw [readEntries]
    constructor
    · intro read
      rcases lines with _ | ⟨_ | l, tail⟩
      · cases read
      · cases read
      · rw [next_line] at read
        dsimp only at read
        cases first : readEntry inventory d number l with
        | error e =>
          rw [first] at read
          cases read
        | ok next =>
          rw [first] at read
          obtain ⟨r, told, added⟩ := read_entry_iff.1 first
          obtain ⟨ls, rs, back, rfl, rfl, others, folded, rfl⟩ := ih.1 read
          refine ⟨l :: ls, r :: rs, back, rfl, rfl, .cons told others, folded_cons.2 ⟨next, added, folded⟩, ?_⟩
          rw [Nat.add_right_comm]
          rfl
    · rintro ⟨_, _, back, rfl, length, told, folded, rfl⟩
      cases told with
      | nil => cases length
      | cons first others =>
        obtain ⟨next, added, folded⟩ := folded_cons.1 folded
        rw [List.map_cons, List.cons_append, next_line]
        dsimp only
        rw [read_entry_iff.2 ⟨_, first, added⟩]
        dsimp only
        refine ih.2 ⟨_, _, back, rfl, Nat.succ.inj length, others, folded, ?_⟩
        rw [Nat.add_right_comm]
        rfl

theorem read_categories_iff {n : Nat} {lines : List (Option (List Char))} :
    readCategories n d ⟨number, lines⟩ = .ok full ↔
      ∃ ls specs back, lines = ls.map some ++ back ∧ specs.length = n ∧ List.Forall₂ TellsCategory ls specs ∧
        specs.foldlM Deck.shelve d = .ok full := by
  induction n generalizing d number lines with
  | zero =>
    constructor
    · intro read
      obtain rfl := Except.ok.inj read
      exact ⟨[], [], lines, rfl, rfl, .nil, rfl⟩
    · rintro ⟨ls, specs, back, rfl, none, told, folded⟩
      obtain rfl := List.eq_nil_of_length_eq_zero none
      exact folded
  | succ n ih =>
    rw [readCategories]
    constructor
    · intro read
      rcases lines with _ | ⟨_ | l, tail⟩
      · cases read
      · cases read
      · rw [next_line] at read
        dsimp only at read
        cases first : readCategory number l with
        | error e =>
          rw [first] at read
          cases read
        | ok spec =>
          rw [first] at read
          dsimp only at read
          cases added : d.addCategory spec with
          | error e =>
            rw [added] at read
            cases read
          | ok made =>
            rw [added] at read
            obtain ⟨ls, specs, back, rfl, rfl, others, folded⟩ := ih.1 read
            refine ⟨l :: ls, spec :: specs, back, rfl, rfl, .cons (category_anywhere first) others, folded_cons.2 ?_⟩
            exact ⟨made.1, congrArg (Except.map Prod.fst) added, folded⟩
    · rintro ⟨_, _, back, rfl, length, told, folded⟩
      cases told with
      | nil => cases length
      | cons first others =>
        obtain ⟨next, added, folded⟩ := folded_cons.1 folded
        obtain ⟨free, rfl⟩ := Deck.shelve_iff.1 added
        rw [List.map_cons, List.cons_append, next_line]
        dsimp only
        rw [first number]
        dsimp only
        rw [Deck.add_category_fresh free]
        exact ih.2 ⟨_, _, back, rfl, Nat.succ.inj length, others, folded⟩

theorem read_shelf_iff {lines : List (Option (List Char))} :
    (match Rest.next ⟨number, lines⟩ with
      | .error e => .error e
      | .ok (l, rest) =>
        match readCount number l with
        | .error e => .error e
        | .ok n => readCategories n d rest) = Except.ok full ↔
      ∃ middle ls specs back, lines = some middle :: (ls.map some ++ back) ∧ TellsCount middle specs.length ∧
        List.Forall₂ TellsCategory ls specs ∧
        specs.foldlM Deck.shelve d = .ok full := by
  constructor
  · intro made
    rcases lines with _ | ⟨_ | middle, later⟩
    · cases made
    · cases made
    · rw [next_line] at made
      dsimp only at made
      cases more : readCount number middle with
      | error e =>
        rw [more] at made
        cases made
      | ok n =>
        rw [more] at made
        obtain ⟨ls, specs, back, rfl, rfl, categories, founded⟩ := read_categories_iff.1 made
        exact ⟨middle, ls, specs, back, rfl, read_count_iff.1 more, categories, founded⟩
  · rintro ⟨middle, ls, specs, back, rfl, more, categories, founded⟩
    rw [next_line]
    dsimp only
    rw [read_count_iff.2 more]
    exact read_categories_iff.2 ⟨ls, specs, back, rfl, rfl, categories, founded⟩

theorem read_iff {lines : List (Option (List Char))} :
    read inventory lines = .ok d ↔ ∃ r, Laid lines r ∧ r.toDeck inventory = .ok d := by
  constructor
  · intro made
    rcases lines with _ | ⟨_ | head, tail⟩
    · cases made
    · cases made
    · rw [read, next_line] at made
      dsimp only at made
      cases many : readCount 1 head with
      | error e =>
        rw [many] at made
        cases made
      | ok n =>
        rw [many] at made
        dsimp only at made
        cases entered : readEntries inventory n Deck.empty ⟨1 + 1, tail⟩ with
        | error e =>
          rw [entered] at made
          cases made
        | ok bare =>
          rw [entered] at made
          obtain ⟨ls, rs, back, rfl, rfl, entries, folded, rest⟩ := read_entries_iff.1 entered
          dsimp only at made
          rw [rest] at made
          obtain ⟨middle, cs, specs, back, rfl, more, categories, founded⟩ := read_shelf_iff.1 made
          refine ⟨⟨rs, specs⟩, ?_, DeckRecord.to_deck_iff.2 ⟨bare.1, folded, founded⟩⟩
          exact ⟨head, middle, ls, cs, back, by simp, read_count_iff.1 many, entries, more, categories⟩
  · rintro ⟨r, ⟨head, middle, ls, cs, back, rfl, many, entries, more, categories⟩, made⟩
    obtain ⟨bare, folded, founded⟩ := DeckRecord.to_deck_iff.1 made
    have split : (head :: ls ++ middle :: cs).map some ++ back =
        some head :: (ls.map some ++ some middle :: (cs.map some ++ back)) := by simp
    rw [split, read, next_line]
    dsimp only
    rw [read_count_iff.2 many]
    dsimp only
    rw [read_entries_iff.2 ⟨ls, r.cards, _, rfl, rfl, entries, folded, rfl⟩]
    exact read_shelf_iff.2 ⟨middle, cs, r.categories, back, rfl, more, categories, founded⟩

end Lines

end LineFile

namespace Deck

/-- A record makes a deck just when its cards are known, each entry has copies, the copies of each card can
    be counted together and no two categories have one name. The deck has each card where it comes first,
    with all its copies, and the categories in order. A deck is read from a file just when the lines up to
    the announced numbers tell such a record, and it is the deck of that record. -/
theorem all_copies_read (inventory : Inventory) :
    (∀ r : DeckRecord, (∃ d, r.toDeck inventory = .ok d) ↔ r.Sound inventory) ∧
      (∀ (r : DeckRecord) d, r.toDeck inventory = .ok d → r.Accounts inventory d) ∧
      ∀ s d, ofLineFile inventory s = .ok d ↔
        ∃ r, LineFile.Laid (LineFile.lines s) r ∧ r.toDeck inventory = .ok d ∧ r.Sound inventory ∧
          r.Accounts inventory d := by
  refine ⟨fun r => ⟨fun ⟨d, made⟩ => ?_, DeckRecord.to_deck_made⟩, fun r d made => ?_, fun s d => ⟨fun read => ?_, ?_⟩⟩
  · exact (DeckRecord.to_deck_accounts made).1
  · exact (DeckRecord.to_deck_accounts made).2
  · obtain ⟨r, laid, made⟩ := LineFile.read_iff.1 read
    exact ⟨r, laid, made, DeckRecord.to_deck_accounts made⟩
  · rintro ⟨r, laid, made, _⟩
    exact LineFile.read_iff.2 ⟨r, laid, made⟩

theorem bears_read :
    let bear := Card.ofFaces "bear" ⟨"", "", "", ""⟩ .common [Face.ofName "Bear"]
    let bull := Card.ofFaces "bull" ⟨"", "", "", ""⟩ .common [Face.ofName "Bull"]
    let r : DeckRecord := ⟨[⟨"bear", 2⟩, ⟨"bull", 1⟩, ⟨"bear", greatest - 2⟩], [⟨"All", .everything, [], [], .black⟩]⟩
    (∃ d, r.toDeck ⟨[bull, bear]⟩ = .ok d ∧ r.Accounts ⟨[bull, bear]⟩ d) ∧
      ¬ ∃ d, ({ r with cards := r.cards ++ [⟨"bear", 1⟩] } : DeckRecord).toDeck ⟨[bull, bear]⟩ = .ok d := by
  intro bear bull r
  obtain ⟨made, accounts, _⟩ := all_copies_read ⟨[bull, bear]⟩
  have bounded (id : CardId) : copiesOf r.cards id < UInt32.size := by
    by_cases first : id = "bear"
    · subst first
      decide +kernel
    · by_cases second : id = "bull"
      · subst second
        decide +kernel
      · simp [r, copiesOf, Ne.symm first, Ne.symm second]
  have sound : r.Sound ⟨[bull, bear]⟩ := ⟨by decide +kernel, by decide +kernel, bounded, by decide +kernel⟩
  obtain ⟨d, read⟩ := (made r).2 sound
  refine ⟨⟨d, read, accounts r d read⟩, fun more => ?_⟩
  have within := ((made _).1 more).bounded "bear"
  exact absurd within (by decide +kernel)

end Deck

end Deckwright
