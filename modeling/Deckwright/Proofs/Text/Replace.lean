import Mathlib.Data.List.Basic
import Deckwright.Proofs.Text.Search
set_option autoImplicit false

namespace Deckwright.Text

structure Word (w : List Char) : Prop where
  some : w ≠ []
  letters : ∀ c ∈ w, isAlphanumeric c = true

-- No word can begin or end across either end of it.
structure Blunt (s : List Char) : Prop where
  head : Open s.head?
  last : Open s.getLast?

def StandsClear (old s : List Char) : Prop :=
  ∀ front back, s = front ++ old ++ back →
    (Open front.getLast? ∨ Open old.head?) ∧ (Open old.getLast? ∨ Open back.head?)

section Decide

instance (side : Option Char) : Decidable (Open side) := decidable_of_iff _ (open_iff side).symm

instance (s : List Char) : Decidable (Blunt s) :=
  decidable_of_iff (Open s.head? ∧ Open s.getLast?) ⟨fun ends => ⟨ends.1, ends.2⟩, fun blunt => ⟨blunt.head, blunt.last⟩⟩

theorem stands_clear_iff (old s : List Char) : StandsClear old s ↔ ∀ i < s.length + 1, old <+: s.drop i →
    (Open (s.take i).getLast? ∨ Open old.head?) ∧ (Open old.getLast? ∨ Open (s.drop (i + old.length)).head?) := by
  constructor
  · intro clear i _ ⟨back, here⟩
    have split : s = s.take i ++ old ++ back := by rw [List.append_assoc, here, List.take_append_drop]
    have behind : s.drop (i + old.length) = back := by rw [← List.drop_drop, ← here, List.drop_left]
    rw [behind]
    exact clear _ _ split
  · rintro each front back rfl
    have within : front.length < (front ++ old ++ back).length + 1 := by
      rw [List.length_append, List.length_append]
      omega
    have there := each front.length within (by simp)
    rwa [List.append_assoc, List.take_left, ← List.drop_drop, List.drop_left, List.drop_left] at there

instance (old s : List Char) : Decidable (StandsClear old s) := decidable_of_iff _ (stands_clear_iff old s).symm

end Decide

section Seam

variable {w s t : List Char}

theorem Word.of_all (some : w ≠ []) (all : w.all isAlphanumeric = true) : Word w := ⟨some, List.all_eq_true.1 all⟩

theorem Word.not_hides (word : Word w) : ¬ Hides w := by
  rintro ⟨front, back, rfl, some, _, _, left⟩
  have last := word.letters _ (List.mem_append_left back (List.getLast_mem some))
  rw [left _ (List.getLast?_eq_some_getLast some)] at last
  cases last

theorem Word.found_iff (word : Word w) : standsIn w s = true ↔ Stands w s :=
  ⟨stands_sound, stands_complete word.some word.not_hides⟩

theorem Word.not_open_head (word : Word w) : ¬ Open (w ++ s).head? := by
  obtain ⟨c, w, rfl⟩ := List.exists_cons_of_ne_nil word.some
  intro side
  have letter := word.letters c (by simp)
  rw [side c rfl] at letter
  cases letter

theorem Word.not_open_last (word : Word w) : ¬ Open (s ++ w).getLast? := by
  intro side
  have letter := word.letters _ (List.getLast_mem word.some)
  rw [side _ (by rw [List.getLast?_append, List.getLast?_eq_some_getLast word.some]; rfl)] at letter
  cases letter

theorem Word.of_append {v : List Char} (word : Word (w ++ v)) (some : w ≠ []) : Word w :=
  ⟨some, fun c member => word.letters c (List.mem_append_left v member)⟩

theorem Word.of_behind {v : List Char} (word : Word (w ++ v)) (some : v ≠ []) : Word v :=
  ⟨some, fun c member => word.letters c (List.mem_append_right w member)⟩

theorem stands_front (word : Word w) (seam : Open s.getLast? ∨ Open t.head?) (stands : Stands w s) : Stands w (s ++ t) := by
  obtain ⟨front, back, rfl, left, right⟩ := stands
  refine ⟨front, back ++ t, by simp, left, ?_⟩
  cases back with
  | nil =>
    rw [List.append_nil] at seam
    exact seam.resolve_left word.not_open_last
  | cons c back => exact right

theorem stands_back (word : Word w) (seam : Open s.getLast? ∨ Open t.head?) (stands : Stands w t) : Stands w (s ++ t) := by
  obtain ⟨front, back, rfl, left, right⟩ := stands
  refine ⟨s ++ front, back, by simp, ?_, right⟩
  by_cases none : front = []
  · subst none
    rw [List.append_nil]
    rw [List.nil_append] at seam
    exact seam.resolve_right word.not_open_head
  · rwa [List.getLast?_append_of_ne_nil s none]

theorem stands_seam (word : Word w) (seam : Open s.getLast? ∨ Open t.head?) :
    Stands w (s ++ t) ↔ Stands w s ∨ Stands w t := by
  refine ⟨?_, fun sides => sides.elim (stands_front word seam) (stands_back word seam)⟩
  rintro ⟨front, back, split, left, right⟩
  rw [List.append_assoc] at split
  rcases List.append_eq_append_iff.1 split with ⟨gap, rfl, rfl⟩ | ⟨tail, rfl, across⟩
  · refine .inr ⟨gap, back, by simp, ?_, right⟩
    by_cases none : gap = []
    · simp [none, Open]
    · rwa [List.getLast?_append_of_ne_nil s none] at left
  · rcases List.append_eq_append_iff.1 across with ⟨rest, rfl, rfl⟩ | ⟨rest, rfl, rfl⟩
    · refine .inl ⟨front, rest, by simp, left, ?_⟩
      cases rest with
      | nil => simp [Open]
      | cons c rest => exact right
    · by_cases none : rest = []
      · subst none
        rw [List.append_nil] at word ⊢
        exact .inl ⟨front, [], by simp, left, by simp [Open]⟩
      · by_cases empty : tail = []
        · subst empty
          rw [List.nil_append] at word ⊢
          exact .inr ⟨[], back, by simp, by simp [Open], right⟩
        · exact absurd seam (not_or.2 ⟨(word.of_append empty).not_open_last, (word.of_behind none).not_open_head⟩)

end Seam

section Pieces

variable {old new w : List Char}

theorem split_at_cons (old : List Char) (skip : Nat) (s : List Char) :
    ∃ piece rest, splitAtFrom old skip s = piece :: rest := by
  induction s generalizing skip with
  | nil => cases skip <;> exact ⟨[], [], rfl⟩
  | cons c s ih =>
    cases skip with
    | succ skip => exact ih skip
    | zero =>
      obtain ⟨piece, rest, later⟩ := ih 0
      rw [splitAtFrom]
      split
      · exact ⟨_, _, rfl⟩
      · exact ⟨c :: piece, rest, by rw [later]⟩

theorem join_nil_cons (sep : List Char) {pieces : List (List Char)} (some : pieces ≠ []) :
    joinWith sep ([] :: pieces) = sep ++ joinWith sep pieces := by
  obtain ⟨piece, rest, rfl⟩ := List.exists_cons_of_ne_nil some
  rw [joinWith, List.nil_append]
  simp

theorem join_cons_cons (sep piece : List Char) (c : Char) (rest : List (List Char)) :
    joinWith sep ((c :: piece) :: rest) = c :: joinWith sep (piece :: rest) := by
  cases rest <;> rfl

theorem join_next (sep piece next : List Char) (rest : List (List Char)) :
    joinWith sep (piece :: next :: rest) = piece ++ (sep ++ joinWith sep (next :: rest)) :=
  List.append_assoc piece sep (joinWith sep (next :: rest))

theorem replace_pieces (old new s : List Char) : replaceAll old new s = joinWith new (splitAt old s) := by
  rw [replaceAll, splitAt]
  suffices any : ∀ skip, replaceFrom old new skip s = joinWith new (splitAtFrom old skip s) from any 0
  induction s with
  | nil => intro skip; cases skip <;> rfl
  | cons c s ih =>
    intro skip
    cases skip with
    | succ skip => exact ih skip
    | zero =>
      rw [replaceFrom, splitAtFrom]
      split
      · obtain ⟨piece, rest, later⟩ := split_at_cons old (old.length - 1) s
        rw [ih, join_nil_cons new (by simp [later])]
      · obtain ⟨piece, rest, later⟩ := split_at_cons old 0 s
        rw [ih, later]
        exact (join_cons_cons new piece c rest).symm

theorem pieces_join (some : old ≠ []) (s : List Char) : joinWith old (splitAt old s) = s := by
  suffices any : ∀ skip, joinWith old (splitAtFrom old skip s) = s.drop skip from any 0
  induction s with
  | nil => intro skip; cases skip <;> simp [splitAtFrom, joinWith]
  | cons c s ih =>
    intro skip
    cases skip with
    | succ skip => exact ih skip
    | zero =>
      rw [splitAtFrom]
      split
      · rename_i found
        obtain ⟨rest, here⟩ := Option.isSome_iff_exists.1 found
        have cut := after_some.1 here
        obtain ⟨piece, more, later⟩ := split_at_cons old (old.length - 1) s
        rw [join_nil_cons old (by simp [later]), ih]
        obtain ⟨d, tail, rfl⟩ := List.exists_cons_of_ne_nil some
        obtain ⟨rfl, behind⟩ := List.cons.inj cut
        have passed : tail ++ s.drop tail.length = s := by
          rw [← behind]
          exact congrArg (tail ++ ·) List.drop_left
        rw [List.length_cons, Nat.add_sub_cancel, List.cons_append, passed]
        rfl
      · obtain ⟨piece, rest, later⟩ := split_at_cons old 0 s
        have whole := ih 0
        rw [later] at whole ⊢
        rw [join_cons_cons, whole]
        rfl

theorem stands_join {sign : Char} (word : Word w) (apart : isAlphanumeric sign = false) (pieces : List (List Char)) :
    Stands w (joinWith [sign] pieces) ↔ ∃ piece ∈ pieces, Stands w piece := by
  have within {s : List Char} (stands : Stands w s) : w ⊆ s := by
    obtain ⟨front, back, rfl, _, _⟩ := stands
    simp
  obtain ⟨c, first⟩ := List.exists_mem_of_ne_nil w word.some
  have nothing : ¬ Stands w [] := fun stands => List.not_mem_nil (within stands first)
  have alone : ¬ Stands w [sign] := by
    intro stands
    have letter := word.letters c first
    rw [List.mem_singleton.1 (within stands first), apart] at letter
    cases letter
  induction pieces with
  | nil => simpa [joinWith] using nothing
  | cons piece rest ih =>
    cases rest with
    | nil => simp [joinWith]
    | cons next rest =>
      have left : Open ([sign] ++ joinWith [sign] (next :: rest)).head? := by simp [Open, apart]
      have right : Open [sign].getLast? := by simp [Open, apart]
      rw [join_next, stands_seam word (.inr left), stands_seam word (.inl right)]
      simp [alone, ih]

theorem found_after_replace {sign : Char} (word : Word w) (apart : isAlphanumeric sign = false) (old s : List Char) :
    standsIn w (replaceAll old [sign] s) = true ↔ ∃ piece ∈ splitAt old s, Stands w piece := by
  rw [word.found_iff, replace_pieces, stands_join word apart]

theorem stands_pieces (word : Word w) (some : old ≠ []) (other : ¬ Stands w old) {pieces : List (List Char)}
    (clear : StandsClear old (joinWith old pieces)) (stands : Stands w (joinWith old pieces)) :
    ∃ piece ∈ pieces, Stands w piece := by
  induction pieces with
  | nil =>
    obtain ⟨front, back, empty, _, _⟩ := stands
    simp [joinWith, word.some] at empty
  | cons piece rest ih =>
    cases rest with
    | nil => exact ⟨piece, by simp, stands⟩
    | cons next rest =>
      rw [join_next] at clear stands
      obtain ⟨left, right⟩ := clear piece (joinWith old (next :: rest)) (by simp)
      have later : StandsClear old (joinWith old (next :: rest)) := by
        intro front back split
        obtain ⟨before, behind⟩ := clear (piece ++ old ++ front) back (by rw [split]; simp)
        refine ⟨before.imp_left fun side => ?_, behind⟩
        by_cases none : front = []
        · simp [none, Open]
        · rwa [List.getLast?_append_of_ne_nil _ none] at side
      -- A word that stands in no piece would have a seam inside it.
      rw [← List.append_assoc, stands_seam word (by rwa [List.getLast?_append_of_ne_nil piece some]),
        stands_seam word left] at stands
      rcases stands with (here | inside) | behind
      · exact ⟨piece, by simp, here⟩
      · exact absurd inside other
      · obtain ⟨found, member, there⟩ := ih later behind
        exact ⟨found, List.mem_cons_of_mem piece member, there⟩

theorem found_beside {sign : Char} {s : List Char} (word : Word w) (apart : isAlphanumeric sign = false) (some : old ≠ [])
    (clear : StandsClear old s) (stands : Stands w s) (other : ¬ Stands w old) :
    Stands w (replaceAll old [sign] s) := by
  rw [← word.found_iff, found_after_replace word apart]
  rw [← pieces_join some s] at clear stands
  exact stands_pieces word some other clear stands

theorem Blunt.clear (blunt : Blunt old) (s : List Char) : StandsClear old s :=
  fun _ _ _ => ⟨.inr blunt.head, .inl blunt.last⟩

theorem Blunt.stands_within {s : List Char} (blunt : Blunt old) (part : old <:+: s) (word : Word w) (stands : Stands w old) :
    Stands w s := by
  obtain ⟨front, back, rfl⟩ := part
  by_cases none : old = []
  · obtain ⟨before, behind, empty, _, _⟩ := stands
    simp [none, word.some] at empty
  · refine stands_front word (.inl ?_) (stands_back word (.inr blunt.head) stands)
    rw [List.getLast?_append_of_ne_nil front none]
    exact blunt.last

end Pieces

section Damage

variable {old s w : List Char}

def letterCount (s : List Char) : Nat := s.countP isAlphanumeric

theorem letter_count_append (s t : List Char) : letterCount (s ++ t) = letterCount s + letterCount t := List.countP_append

theorem letter_count_cons (c : Char) (s : List Char) :
    letterCount (c :: s) = letterCount s + if isAlphanumeric c then 1 else 0 := List.countP_cons

theorem Word.letter_count (word : Word w) : letterCount w = w.length := List.countP_eq_length.2 word.letters

theorem Word.short (word : Word w) (stands : Stands w s) : w.length ≤ letterCount s := by
  obtain ⟨front, back, rfl, _, _⟩ := stands
  rw [letter_count_append, letter_count_append, word.letter_count]
  omega

theorem replace_away {new : List Char} {c : Char} (away : after? old (c :: s) = none) :
    replaceAll old new (c :: s) = c :: replaceAll old new s := by
  rw [replaceAll, replaceFrom, away]
  rfl

theorem replace_here {new : List Char} (some : old ≠ []) (s : List Char) :
    replaceAll old new (old ++ s) = new ++ replaceAll old new s := by
  have passed (front : List Char) : replaceFrom old new front.length (front ++ s) = replaceFrom old new 0 s := by
    induction front with
    | nil => rfl
    | cons c front ih => exact ih
  obtain ⟨c, rest, rfl⟩ := List.exists_cons_of_ne_nil some
  have here : after? (c :: rest) (c :: (rest ++ s)) = Option.some s := after_some.2 rfl
  rw [replaceAll, List.cons_append, replaceFrom, here, if_pos Option.isSome_some, List.length_cons, Nat.add_sub_cancel, passed, replaceAll]

theorem replace_letters {sign : Char} (apart : isAlphanumeric sign = false) (old s : List Char) :
    letterCount (replaceAll old [sign] s) ≤ letterCount s := by
  rw [replaceAll]
  suffices any : ∀ skip, letterCount (replaceFrom old [sign] skip s) ≤ letterCount s from any 0
  induction s with
  | nil => intro skip; cases skip <;> exact Nat.le_refl _
  | cons c s ih =>
    intro skip
    rw [letter_count_cons c s]
    cases skip with
    | succ skip => exact Nat.le_add_right_of_le (ih skip)
    | zero =>
      rw [replaceFrom]
      split
      · have none : letterCount [sign] = 0 := by simp [letterCount, apart]
        rw [letter_count_append, none, Nat.zero_add]
        exact Nat.le_add_right_of_le (ih (old.length - 1))
      · rw [letter_count_cons]
        exact Nat.add_le_add_right (ih 0) _

theorem replace_absent {new : List Char} (absent : ¬ old <:+: s) : replaceAll old new s = s := by
  induction s with
  | nil => rfl
  | cons c s ih =>
    have away : after? old (c :: s) = none := by
      cases here : after? old (c :: s) with
      | none => rfl
      | some rest => exact absurd ⟨[], rest, by simp [after_some.1 here]⟩ absent
    rw [replace_away away, ih fun part => absent (part.trans (List.suffix_cons c s).isInfix)]

theorem leading_word {s : List Char} (runs : ¬ Open s.head?) : ∃ w rest, Word w ∧ s = w ++ rest ∧ Open rest.head? := by
  refine ⟨s.takeWhile isAlphanumeric, s.dropWhile isAlphanumeric, ⟨?_, fun c member => List.mem_takeWhile_imp member⟩,
    List.takeWhile_append_dropWhile.symm, fun c first => ?_⟩
  · cases s with
    | nil => simp [Open] at runs
    | cons c s =>
      have letter : isAlphanumeric c = true := by simpa [Open] using runs
      simp [letter]
  · have stop := List.head?_dropWhile_not isAlphanumeric s
    rwa [first] at stop

theorem trailing_word {s : List Char} (runs : ¬ Open s.getLast?) :
    ∃ front w, Word w ∧ s = front ++ w ∧ Open front.getLast? := by
  obtain ⟨w, rest, word, split, side⟩ := leading_word (s := s.reverse) (by rwa [List.head?_reverse])
  refine ⟨rest.reverse, w.reverse, ⟨by simpa using word.some, fun c member => word.letters c (List.mem_reverse.1 member)⟩,
    ?_, by rwa [List.getLast?_reverse]⟩
  rw [← List.reverse_append, ← split, List.reverse_reverse]

def Padded (x : Char) (n : Nat) (old s : List Char) : Prop :=
  s = List.replicate n x ++ old ∨ s = old ++ List.replicate n x

theorem Word.padded {v : List Char} {x : Char} (letter : isAlphanumeric x = true) (n : Nat) (word : Word v) :
    Word (List.replicate n x ++ v) ∧ Word (v ++ List.replicate n x) := by
  have all : ∀ c ∈ List.replicate n x, isAlphanumeric c = true := fun c member => List.eq_of_mem_replicate member ▸ letter
  exact ⟨⟨by simp [word.some], List.forall_mem_append.2 ⟨all, word.letters⟩⟩,
    ⟨by simp [word.some], List.forall_mem_append.2 ⟨word.letters, all⟩⟩⟩

theorem replace_padded {new : List Char} {x : Char} (some : old ≠ []) (other : old.head? ≠ Option.some x) (n : Nat) :
    replaceAll old new (List.replicate n x ++ old) = List.replicate n x ++ new := by
  induction n with
  | zero =>
    have here : replaceAll old new (old ++ []) = new ++ replaceAll old new [] := replace_here some []
    simpa [replaceAll, replaceFrom] using here
  | succ n ih =>
    obtain ⟨c, rest, rfl⟩ := List.exists_cons_of_ne_nil some
    have away : after? (c :: rest) (x :: (List.replicate n x ++ c :: rest)) = none := by
      rw [after?, if_neg fun same => other (by rw [same]; rfl)]
    rw [List.replicate_succ, List.cons_append, replace_away away, ih, List.cons_append]

theorem damage {sign : Char} (apart : isAlphanumeric sign = false) (ragged : ¬ Blunt old) (n : Nat) :
    ∃ x s w, (x = '0' ∨ x = '1') ∧ Padded x n old s ∧ Word w ∧ Stands w s ∧ n < w.length ∧
      letterCount (replaceAll old [sign] s) < w.length := by
  -- The ragged side is padded, in front with a digit unlike the first character.
  have none : letterCount [sign] = 0 := by simp [letterCount, apart]
  have pad (x : Char) : letterCount (List.replicate n x) ≤ n := by
    have most := List.countP_le_length (p := isAlphanumeric) (l := List.replicate n x)
    rwa [List.length_replicate] at most
  by_cases head : Open old.head?
  · have last : ¬ Open old.getLast? := fun last => ragged ⟨head, last⟩
    obtain ⟨front, v, word, rfl, side⟩ := trailing_word last
    have longer := List.length_pos_iff.2 word.some
    have few := replace_letters apart (front ++ v) (List.replicate n '0')
    refine ⟨'0', _, v ++ List.replicate n '0', .inl rfl, .inr rfl, (word.padded (by decide) n).2,
      ⟨front, [], by simp, side, by simp [Open]⟩, by simp; omega, ?_⟩
    rw [replace_here (by simp [word.some]), letter_count_append, none, List.length_append, List.length_replicate]
    have most := pad '0'
    omega
  · obtain ⟨v, rest, word, rfl, side⟩ := leading_word head
    have longer := List.length_pos_iff.2 word.some
    obtain ⟨x, digit, letter, other⟩ : ∃ x, (x = '0' ∨ x = '1') ∧ isAlphanumeric x = true ∧
        (v ++ rest).head? ≠ some x := by
      by_cases zero : (v ++ rest).head? = some '0'
      · exact ⟨'1', .inr rfl, by decide, by rw [zero]; decide⟩
      · exact ⟨'0', .inl rfl, by decide, zero⟩
    refine ⟨x, _, List.replicate n x ++ v, digit, .inl rfl, (word.padded letter n).1,
      ⟨[], rest, by simp, by simp [Open], side⟩, by simp; omega, ?_⟩
    rw [replace_padded (by simp [word.some]) other, letter_count_append, none, List.length_append, List.length_replicate]
    have most := pad x
    omega

theorem blunt_absent {whole : List Char} {x : Char} {n : Nat} (letter : isAlphanumeric x = true) (blunt : Blunt whole)
    (part : old <:+: whole) (ragged : ¬ Blunt old) (padded : Padded x n old s) : ¬ whole <:+: s := by
  intro inside
  have signs := inside.countP_le (p := fun c => !isAlphanumeric c)
  have same : s.countP (fun c => !isAlphanumeric c) = old.countP fun c => !isAlphanumeric c := by
    rcases padded with rfl | rfl <;> simp [List.countP_append, List.countP_replicate, letter]
  obtain ⟨front, back, rfl⟩ := part
  simp only [same, List.countP_append] at signs
  have before : front.countP (fun c => !isAlphanumeric c) = 0 := by omega
  have behind : back.countP (fun c => !isAlphanumeric c) = 0 := by omega
  rw [List.countP_eq_zero] at before behind
  obtain rfl : front = [] := by
    cases front with
    | nil => rfl
    | cons c front =>
      have sign := blunt.head c rfl
      exact absurd (before c (by simp)) (by simp [sign])
  obtain rfl : back = [] := by
    by_cases none : back = []
    · exact none
    · have last : ([] ++ old ++ back).getLast? = some (back.getLast none) := by
        rw [List.getLast?_append_of_ne_nil _ none, List.getLast?_eq_some_getLast none]
      have sign := blunt.last _ last
      exact absurd (behind _ (List.getLast_mem none)) (by simp [sign])
  exact ragged (by simpa using blunt)

end Damage

end Deckwright.Text
