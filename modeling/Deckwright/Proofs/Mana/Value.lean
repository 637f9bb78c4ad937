import Deckwright.Proofs.Binary64.Sum
import Deckwright.Proofs.Mana.Cost
import Deckwright.Proofs.Text.Search
set_option autoImplicit false

namespace Deckwright

namespace Binary64

theorem lt_amount {x y : Binary64} (left : Amount x) (right : Amount y) :
    x.lt y = decide (x.magnitude < y.magnitude) := by
  have rank {z : Binary64} (amount : Amount z) : z.rank = (z.magnitude : Int) := by
    rw [Binary64.rank, amount.positive]
    rfl
  rw [lt, left.number, right.number, rank left, rank right]
  simp

theorem max_amount {x y : Binary64} (left : Amount x) (right : Amount y) :
    Amount (x.max y) ∧ (x.max y).isFinite = (x.isFinite && y.isFinite) := by
  have below := right.within
  rw [Binary64.max, left.number, right.number, if_neg (by decide), if_neg (by decide), lt_amount left right]
  by_cases less : x.magnitude < y.magnitude
  · rw [if_pos (decide_eq_true less)]
    have finite : x.isFinite = true := decide_eq_true (by omega)
    exact ⟨right, by rw [finite, Bool.true_and]⟩
  · rw [if_neg (by simpa using less)]
    refine ⟨left, ?_⟩
    rw [isFinite, isFinite, ← Bool.decide_and]
    exact decide_eq_decide.2 (by omega)

theorem fold_max_amount {xs : List Binary64} {x : Binary64} (start : Amount x) (each : ∀ y ∈ xs, Amount y) :
    (xs.foldl Binary64.max x).isFinite = (x.isFinite && xs.all isFinite) := by
  induction xs generalizing x with
  | nil => simp
  | cons y ys ih =>
    obtain ⟨here, later⟩ := List.forall_mem_cons.1 each
    obtain ⟨amount, finite⟩ := max_amount start here
    rw [List.foldl_cons, ih amount later, finite, List.all_cons, Bool.and_assoc]

section Stroke

theorem stroke_behind_digits {s : List Char} (stroke : '/' ∈ s) : '/' ∈ (takeDigits s).2 := by
  have whole : s.takeWhile Text.isAsciiDigit ++ s.dropWhile Text.isAsciiDigit = s := List.takeWhile_append_dropWhile
  rw [← whole] at stroke
  rcases List.mem_append.1 stroke with front | back
  · exact absurd (List.all_eq_true.1 List.all_takeWhile _ front) (by decide)
  · exact back

theorem stroke_behind_sign {s : List Char} (stroke : '/' ∈ s) : '/' ∈ (takeSign s).2 := by
  unfold takeSign
  split
  · simpa using stroke
  · simpa using stroke
  · exact stroke

theorem stroke_behind_fraction {s : List Char} (stroke : '/' ∈ s) : '/' ∈ (takeFraction s).2 := by
  unfold takeFraction
  split
  · exact stroke_behind_digits (by simpa using stroke)
  · exact stroke

theorem stroke_no_exponent {s : List Char} (stroke : '/' ∈ s) : readExponent s = none := by
  cases s with
  | nil => cases stroke
  | cons c s =>
    rw [readExponent]
    split
    · rename_i letter
      have later : '/' ∈ s := by
        refine (List.mem_cons.1 stroke).resolve_left ?_
        rintro rfl
        exact absurd letter (by decide)
      have rest := stroke_behind_digits (stroke_behind_sign later)
      have some : (takeDigits (takeSign s).2).2.isEmpty = false := by
        rw [List.isEmpty_eq_false_iff]
        exact List.ne_nil_of_mem rest
      dsimp only
      rw [some, Bool.not_false, Bool.or_true, if_pos rfl]
    · rfl

theorem stroke_unread {s : List Char} (stroke : '/' ∈ s) : (read s).toOption = none := by
  have word : '/' ∈ ((takeSign s).2.map Char.toLower) := List.mem_map.2 ⟨'/', stroke_behind_sign stroke, by decide⟩
  have other {w : List Char} (plain : '/' ∉ w) : (takeSign s).2.map Char.toLower ≠ w := fun same => plain (same ▸ word)
  have rest := stroke_behind_fraction (stroke_behind_digits (stroke_behind_sign stroke))
  have unread : readUnsigned (takeSign s).1 (takeSign s).2 = none := by
    rw [readUnsigned, if_neg (by simp [other]), if_neg (by simp [other])]
    dsimp only
    split
    · rfl
    · rw [stroke_no_exponent rest]
  rw [read, if_neg (by simpa using List.ne_nil_of_mem stroke)]
  dsimp only
  rw [unread]
  rfl

end Stroke

end Binary64

namespace ManaSymbol

def numbers (m : ManaSymbol) : List Nat :=
  ((Text.splitOn '/' m.name.toList).filter fun part => part.all Text.isAsciiDigit).map Binary64.ofDigits

theorem part_number {part : List Char} (whole : isPart part = true) :
    number? part = if part.all Text.isAsciiDigit then some (Binary64.ofNat (Binary64.ofDigits part)) else none := by
  rw [isPart, Bool.and_eq_true, Bool.or_eq_true] at whole
  obtain ⟨some, letter | digits⟩ := whole
  · have unread : ∀ w ∈ letterParts, number? w.toList = none ∧ w.toList.all Text.isAsciiDigit = false := by decide
    have member : String.ofList part ∈ letterParts := by simpa using letter
    obtain ⟨value, digits⟩ := unread _ member
    rw [String.toList_ofList] at value digits
    rw [value, digits, if_neg (by decide)]
  · have read := Binary64.read_digits_alone (by simpa using some) (List.all_eq_true.1 digits)
    rw [number?, read, Binary64.decimal_whole, if_pos digits]
    rfl

theorem part_numbers {parts : List (List Char)} (whole : ∀ part ∈ parts, isPart part = true) :
    parts.filterMap number? =
      ((parts.filter fun part => part.all Text.isAsciiDigit).map Binary64.ofDigits).map Binary64.ofNat := by
  induction parts with
  | nil => rfl
  | cons part rest ih =>
    obtain ⟨here, later⟩ := List.forall_mem_cons.1 whole
    rw [List.filterMap_cons, part_number here, ih later, List.filter_cons]
    cases part.all Text.isAsciiDigit <;> rfl

theorem value_of_parts {m : ManaSymbol} (parts : ∀ part ∈ Text.splitOn '/' m.name.toList, isPart part = true)
    (stroke : '/' ∈ m.name.toList) : m.value = (m.numbers.map Binary64.ofNat).foldl Binary64.max Binary64.one := by
  have other {w : String} (plain : '/' ∉ w.toList) : m.name ≠ w := fun same => plain (same ▸ stroke)
  have unread : number? m.name.toList = none := Binary64.stroke_unread stroke
  have amounts : (["X", "Y", "Z", "T", "Q", "E"].contains m.name) = false := by
    simp [other]
  have halves : (["½", "HW", "HU", "HB", "HR", "HG"].contains m.name) = false := by
    simp [other]
  rw [value, unread, numbers, ← part_numbers parts]
  simp only [amounts, halves, other (show '/' ∉ "∞".toList by decide), List.contains_iff_mem.2 stroke, if_true, if_false,
    Bool.false_eq_true]

theorem value_alone {m : ManaSymbol} (whole : isPart m.name.toList = true)
    (digits : m.name.toList.all Text.isAsciiDigit = false) : m.value.isFinite = (m.name != "∞") := by
  have finite : ∀ w ∈ letterParts, (ManaSymbol.mk w).value.isFinite = (w != "∞") := by decide +kernel
  rw [isPart, digits, Bool.or_false, Bool.and_eq_true, String.ofList_toList] at whole
  exact finite m.name (by simpa using whole.2)

theorem value_finite_iff {s : List Char} {m : ManaSymbol} (found : read s = .ok m) :
    m.value.isFinite = true ↔ m.name ≠ "∞" ∧ ∀ n ∈ m.numbers, n < Binary64.wholeLimit := by
  have parts := (read_iff.1 found).2
  by_cases stroke : '/' ∈ m.name.toList
  · have other : m.name ≠ "∞" := by
      intro same
      rw [same] at stroke
      exact absurd stroke (by decide)
    have amounts : ∀ x ∈ m.numbers.map Binary64.ofNat, Binary64.Amount x :=
      List.forall_mem_map.2 fun n _ => (Binary64.Tracks.of_whole n).toAmount
    have one : Binary64.Amount Binary64.one := (Binary64.Tracks.of_whole 1).toAmount
    have least : Binary64.one.isFinite = true := (Binary64.of_nat_finite_iff 1).2 (by decide +kernel)
    rw [value_of_parts parts stroke, Binary64.fold_max_amount one amounts, least, Bool.true_and, List.all_eq_true,
      List.forall_mem_map]
    simp only [Binary64.of_nat_finite_iff, other, ne_eq, not_false_iff, true_and]
  · have alone := Text.split_on_piece stroke
    have whole : isPart m.name.toList = true := parts _ (by rw [alone]; exact List.mem_singleton_self _)
    cases digits : m.name.toList.all Text.isAsciiDigit with
    | true =>
      have other : m.name ≠ "∞" := by
        intro same
        rw [same] at digits
        exact absurd digits (by decide)
      have written : m.numbers = [Binary64.ofDigits m.name.toList] := by simp [numbers, alone, digits]
      have read : m.value = Binary64.ofNat (Binary64.ofDigits m.name.toList) := by
        rw [value, part_number whole, if_pos digits]
      rw [read, written, Binary64.of_nat_finite_iff, List.forall_mem_singleton]
      exact (and_iff_right other).symm
    | false =>
      have written : m.numbers = [] := by simp [numbers, alone, digits]
      rw [value_alone whole digits, written, bne_iff_ne]
      exact (and_iff_left (List.forall_mem_nil _)).symm

end ManaSymbol

theorem ManaCost.value_endless {s : String} {c : ManaCost} (found : ManaCost.read s = .ok c) {m : ManaSymbol}
    (member : m ∈ c.symbols) (endless : m.name = "∞" ∨ ∃ n ∈ m.numbers, Binary64.wholeLimit ≤ n) :
    c.manaValue.isFinite = false := by
  have value : m.value.isFinite = false := by
    rw [Bool.eq_false_iff, ne_eq, ManaSymbol.value_finite_iff (ManaCost.read_symbols found m member)]
    rintro ⟨other, small⟩
    rcases endless with same | ⟨n, written, large⟩
    · exact other same
    · exact Nat.lt_irrefl n (Nat.lt_of_lt_of_le (small n written) large)
  exact Binary64.sum_endless (List.mem_map_of_mem member) value

end Deckwright
