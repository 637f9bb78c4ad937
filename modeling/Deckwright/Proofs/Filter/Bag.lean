import Mathlib.Data.List.Perm.Basic
import Deckwright.Filter.Basic
set_option autoImplicit false

namespace Deckwright

namespace ManaCost

variable {held want : ManaCost}

theorem name_injective : Function.Injective ManaSymbol.name := by
  rintro ⟨a⟩ ⟨b⟩ same
  exact congrArg ManaSymbol.mk same

theorem names_total (a b : String) : ((compare a b).isLE || (compare b a).isLE) = true := by
  rw [Bool.or_eq_true]
  cases order : compare a b with
  | gt => exact .inr (Ordering.isLE_of_eq_lt (Std.OrientedCmp.gt_iff_lt.1 order))
  | _ => exact .inl rfl

theorem sorted_names_ascend (c : ManaCost) :
    c.sortedNames.Pairwise fun a b => (compare a b).isLE = true :=
  List.pairwise_mergeSort (fun _ _ _ => Std.TransCmp.isLE_trans) names_total _

theorem sorted_names_eq : held.sortedNames = want.sortedNames ↔ held.symbols.Perm want.symbols := by
  have names (c : ManaCost) : c.sortedNames.Perm (c.symbols.map ManaSymbol.name) := List.mergeSort_perm _ _
  rw [← List.map_perm_map_iff name_injective]
  constructor
  · intro same
    exact (names held).symm.trans (same ▸ names want)
  · intro perm
    have sorted : held.sortedNames.Perm want.sortedNames := (names held).trans (perm.trans (names want).symm)
    refine sorted.eq_of_pairwise (fun a b _ _ below above => ?_) held.sorted_names_ascend want.sorted_names_ascend
    exact Std.LawfulEqCmp.eq_of_compare (Std.OrientedCmp.isLE_antisymm below above)

end ManaCost

namespace Leaf

variable (held want : ManaCost)

theorem all_of_iff :
    costTest .allOf held want = true ↔ ∀ m, want.symbols.count m ≤ held.symbols.count m := by
  simp only [costTest, List.all_eq_true, ge_iff_le, decide_eq_true_eq, ManaCost.count]
  refine ⟨fun each m => ?_, fun each m _ => each m⟩
  by_cases asked : m ∈ want.symbols
  · exact each m asked
  · rw [List.count_eq_zero_of_not_mem asked]
    exact Nat.zero_le _

theorem exactly_iff : costTest .exactly held want = true ↔ held.symbols.Perm want.symbols := by
  rw [costTest, decide_eq_true_eq, ManaCost.sorted_names_eq]

theorem any_of_iff : costTest .anyOf held want = true ↔ ∃ m ∈ want.symbols, m ∈ held.symbols := by
  simp [costTest, ManaCost.count]

theorem none_of_eq : costTest .noneOf held want = !costTest .anyOf held want := rfl

theorem exactly_iff_both :
    costTest .exactly held want = true ↔ costTest .allOf held want = true ∧ costTest .allOf want held = true := by
  rw [exactly_iff, all_of_iff, all_of_iff, List.perm_iff_count]
  refine ⟨fun same => ⟨fun m => Nat.le_of_eq (same m).symm, fun m => Nat.le_of_eq (same m)⟩, fun both m => ?_⟩
  exact Nat.le_antisymm (both.2 m) (both.1 m)

theorem cost_test_perm {held want held' want' : ManaCost} (left : held'.symbols.Perm held.symbols)
    (right : want'.symbols.Perm want.symbols) (c : Containment) :
    costTest c held' want' = costTest c held want := by
  have any : costTest .anyOf held' want' = costTest .anyOf held want := by
    rw [Bool.eq_iff_iff, any_of_iff, any_of_iff]
    simp only [left.mem_iff, right.mem_iff]
  cases c with
  | anyOf => exact any
  | noneOf => rw [none_of_eq, none_of_eq, any]
  | allOf =>
    rw [Bool.eq_iff_iff, all_of_iff, all_of_iff]
    simp only [left.count_eq, right.count_eq]
  | exactly =>
    rw [Bool.eq_iff_iff, exactly_iff, exactly_iff, left.congr_left, right.congr_right]

/-- All of a cost is held when every symbol is held as often as it is asked for; exactly it, when the
    symbols are the same but for their order, which is when either has all of the other; any of it, when
    one symbol is in both. The order of the symbols of either cost makes no difference. -/
theorem costs_compared_as_bags :
    (costTest .allOf held want = true ↔ ∀ m, want.symbols.count m ≤ held.symbols.count m) ∧
    (costTest .exactly held want = true ↔ held.symbols.Perm want.symbols) ∧
    (costTest .exactly held want = true ↔ costTest .allOf held want = true ∧ costTest .allOf want held = true) ∧
    (costTest .anyOf held want = true ↔ ∃ m ∈ want.symbols, m ∈ held.symbols) ∧
    (costTest .noneOf held want = true ↔ ¬ costTest .anyOf held want = true) ∧
    ∀ held' want' : ManaCost, held'.symbols.Perm held.symbols → want'.symbols.Perm want.symbols →
      ∀ c, costTest c held' want' = costTest c held want := by
  refine ⟨all_of_iff held want, exactly_iff held want, exactly_iff_both held want, any_of_iff held want, ?_,
    fun _ _ left right => cost_test_perm left right⟩
  rw [none_of_eq, Bool.not_eq_true', Bool.not_eq_true]

theorem red_red_in_any_order :
    let symbol (name : String) : ManaSymbol := ⟨name⟩
    let held : ManaCost := ⟨[symbol "2", symbol "R", symbol "W/U", symbol "R"]⟩
    let mixed : ManaCost := ⟨[symbol "R", symbol "W/U", symbol "R", symbol "2"]⟩
    let want : ManaCost := ⟨[symbol "R", symbol "R"]⟩
    mixed.symbols.Perm held.symbols ∧ costTest .exactly mixed held = true ∧
      costTest .allOf mixed want = costTest .allOf held want ∧ costTest .allOf want held = false := by
  intro symbol held mixed want
  have perm : mixed.symbols.Perm held.symbols := by decide
  obtain ⟨_, _, _, _, _, order⟩ := costs_compared_as_bags held want
  obtain ⟨_, same, _⟩ := costs_compared_as_bags mixed held
  refine ⟨perm, same.2 perm, order mixed want perm (List.Perm.refl _) .allOf, ?_⟩
  rw [Bool.eq_false_iff]
  intro all
  exact absurd ((costs_compared_as_bags want held).1.1 all (symbol "2")) (by decide)

end Leaf

end Deckwright
