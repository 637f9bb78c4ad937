import Deckwright.Mana.Color
set_option autoImplicit false

namespace Deckwright.ColorSet

theorem union_assoc (s t u : ColorSet) : (s.union t).union u = s.union (t.union u) :=
  congrArg ColorSet.mk (UInt8.or_assoc s.mask t.mask u.mask)

theorem colorless_union (s : ColorSet) : colorless.union s = s := congrArg ColorSet.mk UInt8.zero_or

theorem union_colorless (s : ColorSet) : s.union colorless = s := congrArg ColorSet.mk UInt8.or_zero

def Plain (s : ColorSet) : Prop := s.mask.toNat < 32

theorem union_plain {s t : ColorSet} (left : s.Plain) (right : t.Plain) : (s.union t).Plain := by
  simp only [Plain, union, UInt8.toNat_or]
  exact Nat.or_lt_two_pow (n := 5) left right

theorem insert_plain {s : ColorSet} (plain : s.Plain) (c : Color) : (s.insert c).Plain := by
  have bit : c.bit.toNat < 32 := by cases c <;> decide
  simp only [Plain, insert, UInt8.toNat_or]
  exact Nat.or_lt_two_pow (n := 5) plain bit

theorem colorless_plain : colorless.Plain := by
  unfold Plain
  decide

theorem of_list_plain (cs : List Color) : (ofList cs).Plain := by
  have any (s : ColorSet) (plain : s.Plain) : (cs.foldl insert s).Plain := by
    induction cs generalizing s with
    | nil => exact plain
    | cons c rest ih => exact ih _ (insert_plain plain c)
  exact any colorless colorless_plain

theorem read_letters_plain {s : List Char} {colors : ColorSet} (found : readLetters s = .ok colors) : colors.Plain := by
  induction s generalizing colors with
  | nil =>
    obtain rfl := Except.ok.inj found
    exact colorless_plain
  | cons c rest ih =>
    unfold readLetters at found
    split at found
    · exact ih found
    · split at found
      · cases found
      · rename_i color _
        cases later : readLetters rest with
        | error e =>
          rw [later] at found
          cases found
        | ok others =>
          rw [later] at found
          obtain rfl := Except.ok.inj found
          exact union_plain (insert_plain colorless_plain color) (ih later)

theorem read_letters {s : ColorSet} (plain : s.Plain) : readLetters s.letters = .ok s := by
  have each : ∀ n : Fin 32, (readLetters (⟨UInt8.ofNat n⟩ : ColorSet).letters).toOption = some ⟨UInt8.ofNat n⟩ := by
    decide
  have here := each ⟨s.mask.toNat, plain⟩
  simp only [UInt8.ofNat_toNat] at here
  cases found : readLetters s.letters with
  | error e =>
    rw [found] at here
    cases here
  | ok colors =>
    rw [found] at here
    exact congrArg Except.ok (Option.some.inj here)

theorem letters_signs (s : ColorSet) : ∀ c ∈ s.letters, c ∈ Color.all.map Color.letter := by
  intro c member
  obtain ⟨color, inside, rfl⟩ := List.mem_map.1 member
  exact List.mem_map_of_mem (List.mem_filter.1 inside).1

end Deckwright.ColorSet
