import Deckwright.Proofs.Deck.Consistency
import Deckwright.Proofs.Deck.Lines
set_option autoImplicit false

namespace Deckwright

namespace Category

def unmarked (c : Category) : Category := { c with id := 0, swatch := .black }

def rewritten (c : Category) : CategorySpec :=
  ⟨c.name, c.filter, LineFile.readBack c.whitelist.toList, LineFile.readBack c.blacklist.toList, .black⟩

def reread (entries : List Entry) (c : Category) : Category :=
  { ofSpec 0 c.rewritten with members := Deck.membersOf (ofSpec 0 c.rewritten) entries }

theorem of_spec_lists {c : Category} (apart : c.Apart) :
    ofSpec 0 ⟨c.name, c.filter, c.whitelist.toList, c.blacklist.toList, .black⟩ =
      { c.unmarked with members := [] } :=
  of_spec_to_spec (c := c.unmarked) 0 apart

theorem reread_same {d : Deck} {c : Category} (viewed : Deck.Viewed d) (member : c ∈ d.categories) :
    c.reread d.entries = c.unmarked ↔ c.whitelist.toList ≠ [""] ∧ c.blacklist.toList ≠ [""] := by
  constructor
  · intro same
    refine ⟨fun white => ?_, fun black => ?_⟩
    · have lost := congrArg Category.whitelist same
      have none : (c.reread d.entries).whitelist = ∅ := by
        simp only [reread, ofSpec, rewritten, white]
        rfl
      rw [none] at lost
      have kept : (∅ : OrderedSet CardId).toList = [""] := by rw [lost]; exact white
      cases kept
    · have lost := congrArg Category.blacklist same
      have none : (c.reread d.entries).blacklist = ∅ := by
        simp only [reread, ofSpec, rewritten, black]
        rfl
      rw [none] at lost
      have kept : (∅ : OrderedSet CardId).toList = [""] := by rw [lost]; exact black
      cases kept
  · rintro ⟨white, black⟩
    have members : Deck.membersOf { c.unmarked with members := [] } d.entries = c.members := by
      rw [viewed.members c member, Deck.members_of_cards]
      rfl
    rw [reread, rewritten, LineFile.read_back_same white, LineFile.read_back_same black,
      of_spec_lists (viewed.apart c member), members]
    rfl

end Category

namespace LineFile

open Deck (entryLine categoryLine)

theorem next_line (number : Nat) (l : List Char) (rest : List (Option (List Char))) :
    Rest.next ⟨number, some l :: rest⟩ = .ok (l, ⟨number + 1, rest⟩) := rfl

theorem read_entries {inventory : Inventory} {es : List Entry} {d : Deck} (bare : d.categories = [])
    (found : ∀ e ∈ es, inventory.get? e.id = some e.card) (counted : ∀ e ∈ es, e.count ≠ 0)
    (distinct : (es.map Entry.id).Nodup) (absent : ∀ e ∈ es, d.position? e.id = none) (number : Nat)
    (rest : List (Option (List Char))) :
    ∃ full, readEntries inventory es.length d ⟨number, (es.map entryLine).map some ++ rest⟩ =
        .ok (full, ⟨number + es.length, rest⟩) ∧
      full.entries = d.entries ++ es ∧ full.categories = [] := by
  induction es generalizing d number with
  | nil => exact ⟨d, rfl, by simp, bare⟩
  | cons e tail ih =>
    obtain ⟨fresh, distinct⟩ := List.nodup_cons.1 distinct
    have read := read_entry (found e (by simp)) (counted e (by simp)) (absent e (by simp)) number
    obtain ⟨full, reading, entries, categories⟩ := ih (d := d.append e.card e.count)
      (by simp [Deck.append, bare]) (fun other member => found other (List.mem_cons_of_mem e member))
      (fun other member => counted other (List.mem_cons_of_mem e member)) distinct (Deck.absent_append fresh absent)
      (number + 1)
    refine ⟨full, ?_, ?_, categories⟩
    · rw [List.length_cons, readEntries, List.map_cons, List.map_cons, List.cons_append, next_line]
      dsimp only
      rw [read]
      dsimp only
      rw [reading, Nat.add_assoc, Nat.add_comm 1]
    · simp [entries, Deck.append]

theorem read_categories {cs : List Category} {d : Deck} (canonical : ∀ c ∈ cs, c.filter.Canonical)
    (distinct : (cs.map Category.name).Nodup) (fresh : ∀ c ∈ cs, d.containsCategory c.name = false) (number : Nat) :
    ∃ full, readCategories cs.length d ⟨number, (cs.map fun c => categoryLine c.toSpec).map some⟩ = .ok full ∧
      full.entries = d.entries ∧
      full.categories.map Category.unmarked =
        d.categories.map Category.unmarked ++ cs.map (Category.reread d.entries) := by
  induction cs generalizing d number with
  | nil => exact ⟨d, rfl, rfl, by simp⟩
  | cons c tail ih =>
    obtain ⟨apart, distinct⟩ := List.nodup_cons.1 distinct
    have read : readCategory number (categoryLine c.toSpec) = .ok c.rewritten :=
      read_category (c := c.toSpec) (canonical c (by simp)) number
    have free : d.containsCategory c.rewritten.name = false := fresh c (by simp)
    have later : ∀ other ∈ tail, (d.widen c.rewritten).containsCategory other.name = false := by
      intro other member
      have away : c.rewritten.name ≠ other.name := fun same => apart (List.mem_map.2 ⟨other, member, same.symm⟩)
      rw [Deck.widen_names, fresh other (List.mem_cons_of_mem c member), decide_eq_false away]
      rfl
    obtain ⟨full, reading, same, all⟩ := ih
      (fun other member => canonical other (List.mem_cons_of_mem c member)) distinct later (number + 1)
    refine ⟨full, ?_, same, ?_⟩
    · rw [List.length_cons, readCategories, List.map_cons, List.map_cons, next_line]
      dsimp only
      rw [read]
      dsimp only
      rw [Deck.add_category_fresh free]
      exact reading
    · have wider : (d.widen c.rewritten).categories.map Category.unmarked =
          d.categories.map Category.unmarked ++ [c.reread d.entries] :=
        List.map_append
      rw [all, wider, List.append_assoc]
      rfl

end LineFile

namespace Deck

theorem lines_one_line {d : Deck} (canonical : ∀ c ∈ d.categories, c.filter.Canonical) :
    ∀ l ∈ d.lines, LineFile.OneLine l := by
  intro l member
  have number (n : Nat) : LineFile.OneLine (natText n) := LineFile.digits_one_line (Text.nat_digits n)
  simp only [lines, List.cons_append, List.mem_cons, List.mem_append, List.mem_map] at member
  rcases member with rfl | ⟨e, _, rfl⟩ | rfl | ⟨c, inside, rfl⟩
  · exact number _
  · exact LineFile.entry_one_line e
  · exact number _
  · exact LineFile.category_one_line (canonical c inside)

/-- A deck that any changes lead to is read again from its lines, provided its cards are known and
    there are no more entries and categories than can be counted. The entries are the same; the
    categories are the same if no list in them is the one that cannot be told from no list. -/
theorem line_file_round_trip {n : Nat} {d : Deck} {inventory : Inventory} (reached : Reached n d)
    (filters : ∀ c ∈ d.categories, c.filter.Made) (found : ∀ e ∈ d.entries, inventory.get? e.id = some e.card)
    (cards : d.entries.length ≤ LineFile.sizeLimit) (few : d.categories.length ≤ LineFile.sizeLimit) :
    ∃ read, ofLineFile inventory (Text.toOctets d.toLineFile) = .ok read ∧ read.entries = d.entries ∧
      (read.categories.map Category.unmarked = d.categories.map Category.unmarked ↔
        ∀ c ∈ d.categories, c.whitelist.toList ≠ [""] ∧ c.blacklist.toList ≠ [""]) := by
  have listed := reached_listed reached
  have viewed := reached_viewed reached
  have canonical : ∀ c ∈ d.categories, c.filter.Canonical :=
    fun c member => Filter.made_canonical (filters c member)
  have distinct : (d.entries.map Entry.id).Nodup := by
    rw [entry_ids]
    exact listed.distinct
  obtain ⟨full, entriesRead, entries, bare⟩ := LineFile.read_entries (d := empty) rfl found listed.counted distinct
    (fun _ _ => rfl) 2 ((natText d.categories.length :: d.categories.map fun c => categoryLine c.toSpec).map some)
  obtain ⟨read, categoriesRead, same, categories⟩ := LineFile.read_categories (d := full) canonical viewed.named
    (fun c _ => by simp [containsCategory, bare]) (2 + d.entries.length + 1)
  have whole : full.entries = d.entries := entries
  refine ⟨read, ?_, same.trans whole, ?_⟩
  · have start : LineFile.lines (Text.toOctets d.toLineFile) = d.lines.map some :=
      LineFile.lines_written (lines_one_line canonical)
    rw [ofLineFile, start, lines, List.map_append, List.map_cons, LineFile.read, List.cons_append]
    rw [LineFile.next_line]
    dsimp only
    rw [size, LineFile.read_count cards]
    dsimp only
    rw [entriesRead]
    dsimp only
    rw [List.map_cons, LineFile.next_line]
    dsimp only
    rw [LineFile.read_count few]
    exact categoriesRead
  · rw [categories, bare, whole, List.map_nil, List.nil_append, List.map_inj_left]
    exact forall₂_congr fun c member => Category.reread_same viewed member

-- The card without an id is forced into a category; what is read knows nothing of that.
theorem nameless_line_file :
    let nameless := Card.ofFaces "" ⟨"", "", "", ""⟩ .common [Face.ofName "Nameless"]
    let d := (empty.after (.add nameless 2)).after (.addCategory ⟨"Forced", .everything, [""], [], .black⟩)
    ∃ read, ofLineFile ⟨[nameless]⟩ (Text.toOctets d.toLineFile) = .ok read ∧ read.entries = d.entries ∧
      read.categories.map Category.unmarked ≠ d.categories.map Category.unmarked := by
  intro nameless d
  have entries : d.entries = [⟨nameless, 2⟩] := rfl
  have categories : d.categories = [⟨0, "Forced", .black, .everything, .ofList [""], ∅, [""]⟩] := rfl
  obtain ⟨_, reached⟩ : ∃ n, Reached n d := ⟨_, .change _ (.change _ .start)⟩
  have filters : ∀ c ∈ d.categories, c.filter.Made := by
    intro c member
    rw [categories, List.mem_singleton] at member
    exact member ▸ Filter.Made.standard .anyCard
  have found : ∀ e ∈ d.entries, Inventory.get? ⟨[nameless]⟩ e.id = some e.card := by
    intro e member
    rw [entries, List.mem_singleton] at member
    exact member ▸ rfl
  obtain ⟨read, reading, same, lists⟩ := line_file_round_trip reached filters found
    (by rw [entries]; decide) (by rw [categories]; decide)
  refine ⟨read, reading, same, fun kept => ?_⟩
  exact (lists.1 kept _ (by rw [categories]; exact List.mem_cons_self)).1 rfl

end Deck

end Deckwright
