import Deckwright.Proofs.Deck.Consistency
set_option autoImplicit false

/- The numbers of categories run out. A category that comes and goes takes one with it, and after the
   last of them the first is given out again, whether or not a category still has it. -/
namespace Deckwright.Deck

section Passing

variable {d : Deck} {spec : CategorySpec}

theorem widen_found (free : d.containsCategory spec.name = false) :
    (d.widen spec).category? spec.name =
      some { Category.ofSpec d.nextCategory spec with
        members := membersOf (Category.ofSpec d.nextCategory spec) d.entries } := by
  have front : d.categories.find? (fun c => c.name = spec.name) = none := by
    simpa using contains_category_false.1 free
  have last : (Category.ofSpec d.nextCategory spec).name = spec.name := rfl
  simp [category?, widen, changed, front, last]

theorem rows_passed (listed : Listed d) {c : Category}
    (unused : ∀ id row, d.memberships.get? id = some row → row.contains c.id = false) :
    (d.entries.foldl (noteIn c) d.memberships).mapValues (fun _ row => row.erase c.id) = d.memberships := by
  have distinct : (d.entries.map Entry.id).Nodup := by
    rw [entry_ids]
    exact listed.distinct
  apply OrderedMap.ext_get
  intro id
  rw [OrderedMap.get_map_values, get_noted c d.entries d.memberships id distinct]
  cases held : d.memberships.get? id with
  | none => cases (d.entries.map Entry.card).find? fun card => card.id = id <;> rfl
  | some row =>
    have absent := unused id row held
    cases (d.entries.map Entry.card).find? fun card => card.id = id with
    | none => exact congrArg some (OrderedSet.erase_absent absent)
    | some card =>
      have passed : (if c.includes card then row.insert c.id else row.erase c.id).erase c.id = row := by
        apply OrderedSet.ext_mem
        intro k
        have away : k ∈ row.toList → k ≠ c.id := by
          rintro member rfl
          rw [OrderedSet.contains_iff.2 member] at absent
          cases absent
        by_cases inside : c.includes card
        · rw [if_pos inside, OrderedSet.mem_erase, OrderedSet.mem_insert]
          exact ⟨fun ⟨new, other⟩ => new.resolve_left other, fun member => ⟨.inr member, away member⟩⟩
        · rw [if_neg inside, OrderedSet.mem_erase, OrderedSet.mem_erase]
          exact ⟨fun ⟨⟨member, _⟩, _⟩ => member, fun member => ⟨⟨member, away member⟩, away member⟩⟩
      exact congrArg some passed

theorem category_passed (listed : Listed d) (free : d.containsCategory spec.name = false)
    (unused : ∀ id row, d.memberships.get? id = some row → row.contains d.nextCategory = false) :
    (d.after (.addCategory spec)).after (.removeCategory spec.name) = { d with nextCategory := d.nextCategory + 1 } := by
  have added : d.after (.addCategory spec) = d.widen spec := by rw [after, add_category_fresh free, settled]
  have front : ∀ c ∈ d.categories, ¬ decide (c.name = spec.name) = true := by
    simpa using contains_category_false.1 free
  have shelf : (d.widen spec).categories.eraseP (fun c => c.name = spec.name) = d.categories := by
    rw [widen, changed, List.eraseP_append_right _ front]
    simp [Category.ofSpec]
  have rows := rows_passed listed (c := Category.ofSpec d.nextCategory spec) unused
  rw [added, after, removeCategory, widen_found free]
  dsimp only
  rw [shelf]
  exact congrArg (fun rows => { d with nextCategory := d.nextCategory + 1, memberships := rows }) rows

theorem reached_passed {n : Nat} (reached : Reached n d) {name : String} (free : d.containsCategory name = false)
    (unused : ∀ id row, d.memberships.get? id = some row → row.contains d.nextCategory = false) :
    Reached (n + 1) { d with nextCategory := d.nextCategory + 1 } := by
  let spec : CategorySpec := ⟨name, .nothing, [], [], .black⟩
  have founds : d.founded (.addCategory spec) = 1 := by simp [founded, spec, free]
  have passed : (d.after (.addCategory spec)).after (.removeCategory name) = _ :=
    category_passed (reached_listed reached) free unused
  have next := Reached.change (.removeCategory name) (.change (.addCategory spec) reached)
  rwa [passed, founds] at next

end Passing

theorem numbers_unused {n : Nat} {d : Deck} (numbered : Numbered n d) {k : CategoryId} (new : n ≤ k.toNat)
    (id : CardId) (row : OrderedSet CategoryId) (held : d.memberships.get? id = some row) : row.contains k = false := by
  rw [numbered.rows] at held
  obtain ⟨card, _, rfl⟩ := Option.map_eq_some_iff.1 held
  rw [Bool.eq_false_iff, ne_eq, OrderedSet.contains_iff, mem_homes]
  rintro ⟨c, member, _, rfl⟩
  exact Nat.not_lt.2 new (numbered.below c member)

theorem numbers_passed {n : Nat} {d : Deck} (reached : Reached n d) {name : String}
    (free : d.containsCategory name = false) {k : Nat} (few : n + k ≤ UInt32.size) :
    Reached (n + k) { d with nextCategory := UInt32.ofNat (n + k) } := by
  have numbered := reached_numbered reached (by omega)
  induction k with
  | zero =>
    rw [Nat.add_zero, ← numbered.next]
    exact reached
  | succ k ih =>
    have number : (UInt32.ofNat (n + k)).toNat = n + k := Nat.mod_eq_of_lt (Nat.lt_of_lt_of_le (by omega) few)
    have unused := numbers_unused numbered (k := UInt32.ofNat (n + k)) (by omega)
    have next := reached_passed (ih (by omega)) free unused
    rw [← Nat.add_assoc, UInt32.ofNat_add]
    exact next

/-- Whatever led to a deck, its numbers can be used up with nothing else changed; the first of them is next. -/
theorem numbers_spent {n : Nat} {d : Deck} (reached : Reached n d) (few : n ≤ UInt32.size) {name : String}
    (free : d.containsCategory name = false) : Reached UInt32.size { d with nextCategory := 0 } := by
  have whole : n + (UInt32.size - n) = UInt32.size := by omega
  have passed := numbers_passed reached free (k := UInt32.size - n) (by omega)
  rw [whole] at passed
  exact passed

section Herd

def bear : Card := Card.ofFaces "bear" ⟨"", "", "", ""⟩ .common [Face.ofName "Bear"]

def herd : Deck := (empty.after (.add bear 2)).after (.addCategory ⟨"All", .everything, [], [], .black⟩)

def spentHerd : Deck := { herd with nextCategory := 0 }

-- It gets the number of the category of all cards.
def namesake : CategorySpec := ⟨"None", .nothing, [], [], .black⟩

def sharedHerd : Deck := spentHerd.after (.addCategory namesake)

theorem spent_herd_reached : Reached UInt32.size spentHerd := by
  have reached : Reached 1 herd := .change (.addCategory _) (.change (.add _ 2) .start)
  have free : herd.containsCategory "None" = false := rfl
  exact numbers_spent reached (by decide) free

theorem shared_herd_reached : Reached (UInt32.size + 1) sharedHerd := .change (.addCategory namesake) spent_herd_reached

end Herd

end Deckwright.Deck
