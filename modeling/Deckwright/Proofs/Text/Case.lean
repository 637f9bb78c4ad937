import Deckwright.Proofs.Text.Blank
import Deckwright.Text.Case
set_option autoImplicit false

namespace Deckwright.Text

-- That no lower case is a capital, a blank or outside the characters is checked for two runs
-- at a time, by the ends of the runs, and not for one character at a time: only runs of
-- alternating letters overlap, and those never meet in the same letter.
def CaseRun.misses (low : Nat) (run other : CaseRun) : Bool :=
  Nat.blt (low + (run.last - run.first)) other.first || Nat.blt other.last low ||
    ((Nat.beq run.step 2 || Nat.beq run.first run.last) && Nat.beq other.step 2 &&
      Nat.beq ((low + other.first) % 2) 1)

def neverLower : List CaseRun :=
  [⟨9, 13, 1, 0⟩, ⟨0x20, 0x20, 1, 0⟩, ⟨0x85, 0x85, 1, 0⟩, ⟨0xA0, 0xA0, 1, 0⟩, ⟨0x130, 0x130, 1, 0⟩,
    ⟨0x1680, 0x1680, 1, 0⟩, ⟨0x2000, 0x200A, 1, 0⟩, ⟨0x2028, 0x2029, 1, 0⟩, ⟨0x202F, 0x202F, 1, 0⟩,
    ⟨0x205F, 0x205F, 1, 0⟩, ⟨0x3000, 0x3000, 1, 0⟩, ⟨0xD800, 0xDFFF, 1, 0⟩]

theorem runs_miss : (lowerRuns.all fun run =>
    (lowerRuns ++ neverLower).all (run.misses (run.first + run.shift).toNat)) = true := by
  decide +kernel

theorem runs_within : (lowerRuns.all fun run =>
    decide (0x61 ≤ run.first + run.shift) && decide (run.last + run.shift < 0x110000)) = true := by
  decide +kernel

theorem lower_in_cases (n : Nat) (runs : List CaseRun) :
    lowerIn n runs = n ∨ ∃ run ∈ runs, run.covers n = true ∧ lowerIn n runs = (n + run.shift).toNat := by
  induction runs with
  | nil => exact .inl rfl
  | cons run rest ih =>
    unfold lowerIn
    split
    · exact .inl rfl
    · split
      · rename_i _ covered
        exact .inr ⟨run, by simp, covered, rfl⟩
      · rcases ih with same | ⟨other, member, found⟩
        · exact .inl same
        · exact .inr ⟨other, List.mem_cons_of_mem run member, found⟩

theorem lower_in_missed {n : Nat} {runs : List CaseRun} (missed : ∀ run ∈ runs, run.covers n = false) :
    lowerIn n runs = n := by
  rcases lower_in_cases n runs with same | ⟨run, member, covered, _⟩
  · exact same
  · rw [missed run member] at covered
    cases covered

theorem covers_missed {run other : CaseRun} {n : Nat} (covered : run.covers n = true)
    (above : 0 ≤ run.first + run.shift) (apart : run.misses (run.first + run.shift).toNat other = true) :
    other.covers (n + run.shift).toNat = false := by
  simp only [CaseRun.covers, Bool.and_eq_true, decide_eq_true_eq, beq_iff_eq] at covered
  obtain ⟨⟨atLeast, atMost⟩, parity⟩ := covered
  rw [Bool.eq_false_iff]
  intro both
  simp only [CaseRun.covers, Bool.and_eq_true, decide_eq_true_eq, beq_iff_eq] at both
  obtain ⟨⟨otherLeast, otherMost⟩, otherParity⟩ := both
  simp only [CaseRun.misses, Bool.or_eq_true, Bool.and_eq_true, Nat.blt_eq, Nat.beq_eq] at apart
  rcases apart with (before | behind) | ⟨⟨two | single, otherTwo⟩, odd⟩
  · omega
  · omega
  · rw [two] at parity
    rw [otherTwo] at otherParity
    omega
  · rw [otherTwo] at otherParity
    omega

theorem lower_code_missed {n : Nat} (other : lowerCode n ≠ n) :
    lowerCode n < 0x110000 ∧ ∀ run ∈ lowerRuns ++ neverLower, run.covers (lowerCode n) = false := by
  rcases lower_in_cases n lowerRuns with same | ⟨run, member, covered, lower⟩
  · exact absurd same other
  have within := List.all_eq_true.1 runs_within run member
  simp only [Bool.and_eq_true, decide_eq_true_eq] at within
  have apart := List.all_eq_true.1 (List.all_eq_true.1 runs_miss run member)
  rw [lowerCode, lower]
  refine ⟨?_, fun next inside => covers_missed covered (by omega) (apart next inside)⟩
  simp only [CaseRun.covers, Bool.and_eq_true, decide_eq_true_eq] at covered
  omega

theorem never_lower_gaps {n : Nat} (missed : ∀ run ∈ neverLower, run.covers n = false) :
    (n < 0xD800 ∨ 0xDFFF < n) ∧ n ≠ 0x130 ∧ ∀ c : Char, c.toNat = n → isBlank c = false := by
  simp [neverLower, CaseRun.covers, Nat.mod_one] at missed
  refine ⟨by omega, by omega, fun c code => ?_⟩
  simp [isBlank, code]
  omega

theorem char_of_code {n : Nat} (scalar : n < 0xD800 ∨ (0xDFFF < n ∧ n < 0x110000)) : (Char.ofNat n).toNat = n := by
  unfold Char.ofNat
  rw [dif_pos scalar]
  rfl

structure Settled (c : Char) : Prop where
  lower : lowerChar c = [c]
  sigma : c ≠ capitalSigma

theorem lower_char_cases (c : Char) : c = dottedCapitalI ∨ lowerChar c = [c] ∨
    ∃ d, lowerChar c = [d] ∧ d.toNat = lowerCode c.toNat ∧ lowerCode c.toNat ≠ c.toNat := by
  by_cases dotted : c = dottedCapitalI
  · exact .inl dotted
  · refine .inr ?_
    unfold lowerChar
    rw [if_neg dotted]
    by_cases same : lowerCode c.toNat = c.toNat
    · rw [same, Char.ofNat_toNat]
      exact .inl rfl
    · obtain ⟨below, missed⟩ := lower_code_missed same
      obtain ⟨scalar, _, _⟩ := never_lower_gaps fun run inside => missed run (List.mem_append_right _ inside)
      exact .inr ⟨_, rfl, char_of_code (by omega), same⟩

theorem lower_char_shape (c : Char) :
    (∀ d ∈ lowerChar c, Settled d ∧ isBlank d = false) ∨ (lowerChar c = [c] ∧ Settled c) := by
  rcases lower_char_cases c with rfl | same | ⟨d, low, code, other⟩
  · refine .inl ?_
    rw [show lowerChar dottedCapitalI = ['i', Char.ofNat 0x307] by decide]
    intro d member
    simp only [List.mem_cons, List.not_mem_nil, or_false] at member
    rcases member with rfl | rfl
    · exact ⟨⟨by decide, by decide⟩, by decide⟩
    · exact ⟨⟨by decide, by decide⟩, by decide⟩
  · refine .inr ⟨same, same, ?_⟩
    rintro rfl
    revert same
    decide
  · refine .inl fun e member => ?_
    rw [low, List.mem_singleton] at member
    subst member
    obtain ⟨_, missed⟩ := lower_code_missed other
    obtain ⟨_, undotted, blank⟩ := never_lower_gaps fun run inside => missed run (List.mem_append_right _ inside)
    have lowered : lowerCode (lowerCode c.toNat) = lowerCode c.toNat :=
      lower_in_missed fun run inside => missed run (List.mem_append_left _ inside)
    rw [← code] at undotted lowered
    refine ⟨⟨?_, ?_⟩, blank e code⟩
    · have plain : e ≠ dottedCapitalI := fun equal => undotted (by rw [equal]; decide)
      rw [lowerChar, if_neg plain, lowered, Char.ofNat_toNat]
    · rintro rfl
      revert lowered
      decide

theorem lower_step_shape (c : Char) (final : Bool) :
    let here := if c = capitalSigma && final then [finalSigma] else lowerChar c
    here ≠ [] ∧ ∀ d ∈ here, Settled d ∧ (isBlank c = false → isBlank d = false) := by
  dsimp only
  split
  · refine ⟨by simp, fun d member => ?_⟩
    obtain rfl := List.mem_singleton.1 member
    exact ⟨⟨by decide, by decide⟩, fun _ => by decide⟩
  · refine ⟨by unfold lowerChar; split <;> simp, fun d member => ?_⟩
    rcases lower_char_shape c with other | ⟨same, settled⟩
    · exact ⟨(other d member).1, fun _ => (other d member).2⟩
    · rw [same] at member
      obtain rfl := List.mem_singleton.1 member
      exact ⟨settled, id⟩

theorem lower_from_settled (before s : List Char) (settled : ∀ c ∈ s, Settled c) : lowerFrom before s = s := by
  induction s generalizing before with
  | nil => rfl
  | cons c rest ih =>
    have here := settled c (by simp)
    rw [lowerFrom, ih _ fun d member => settled d (List.mem_cons_of_mem c member)]
    simp [here.sigma, here.lower]

theorem lower_from_all (before s : List Char) : ∀ d ∈ lowerFrom before s, Settled d := by
  induction s generalizing before with
  | nil => simp [lowerFrom]
  | cons c rest ih =>
    intro d member
    rw [lowerFrom, Bool.and_assoc] at member
    rcases List.mem_append.1 member with here | later
    · exact ((lower_step_shape c _).2 d here).1
    · exact ih _ d later

theorem lower_lower (s : List Char) : lower (lower s) = lower s :=
  lower_from_settled [] _ (lower_from_all [] s)

theorem head_lower_from (before s : List Char) (bare : ∀ c ∈ s.head?, isBlank c = false) :
    ∀ d ∈ (lowerFrom before s).head?, isBlank d = false := by
  cases s with
  | nil => simp [lowerFrom]
  | cons c rest =>
    intro d first
    obtain ⟨some, shape⟩ := lower_step_shape c (nextIsCased before && !nextIsCased rest)
    obtain ⟨e, tail, here⟩ := List.exists_cons_of_ne_nil some
    rw [lowerFrom, Bool.and_assoc, here] at first
    rw [here] at shape
    simp only [List.cons_append, List.head?_cons, Option.mem_def, Option.some.injEq] at first
    exact (shape d (by simp [first])).2 (bare c rfl)

theorem last_lower_from (before s : List Char) (bare : ∀ c ∈ s.getLast?, isBlank c = false) :
    ∀ d ∈ (lowerFrom before s).getLast?, isBlank d = false := by
  induction s generalizing before with
  | nil => simp [lowerFrom]
  | cons c rest ih =>
    intro d last
    obtain ⟨_, shape⟩ := lower_step_shape c (nextIsCased before && !nextIsCased rest)
    rw [lowerFrom, Bool.and_assoc] at last
    cases rest with
    | nil =>
      rw [lowerFrom, List.append_nil] at last
      exact (shape d (List.mem_of_getLast? last)).2 (bare c rfl)
    | cons e tail =>
      have some : lowerFrom (c :: before) (e :: tail) ≠ [] := by
        rw [lowerFrom, Bool.and_assoc]
        exact List.append_ne_nil_of_left_ne_nil (lower_step_shape e _).1 _
      rw [List.getLast?_append, Option.or_of_isSome (by simpa using some)] at last
      exact ih (c :: before) (by simpa using bare) d last

theorem lower_bare {s : List Char} (bare : Bare s) : Bare (lower s) :=
  ⟨head_lower_from [] s bare.head, last_lower_from [] s bare.last⟩

section Characterwise

theorem lower_char_some (c : Char) : lowerChar c ≠ [] := by
  unfold lowerChar
  split <;> simp

theorem lower_char_blank {c d : Char} (bare : isBlank c = false) (member : d ∈ lowerChar c) : isBlank d = false := by
  rcases lower_char_shape c with other | ⟨same, _⟩
  · exact (other d member).2
  · rw [same, List.mem_singleton] at member
    exact member ▸ bare

theorem head_flat_map {f : Char → List Char} (some : ∀ c, f c ≠ []) (s : List Char) :
    ∀ d ∈ (s.flatMap f).head?, ∃ c ∈ s.head?, d ∈ f c := by
  cases s with
  | nil => simp
  | cons c rest =>
    intro d first
    obtain ⟨e, tail, here⟩ := List.exists_cons_of_ne_nil (some c)
    rw [List.flatMap_cons, here] at first
    exact ⟨c, rfl, by rw [here, ← Option.some.inj first]; exact List.mem_cons_self⟩

theorem last_flat_map {f : Char → List Char} (some : ∀ c, f c ≠ []) (s : List Char) :
    ∀ d ∈ (s.flatMap f).getLast?, ∃ c ∈ s.getLast?, d ∈ f c := by
  intro d last
  rw [← List.head?_reverse, List.reverse_flatMap] at last
  obtain ⟨c, first, member⟩ := head_flat_map (fun c => List.reverse_ne_nil_iff.2 (some c)) s.reverse d last
  rw [List.head?_reverse] at first
  exact ⟨c, first, List.mem_reverse.1 member⟩

theorem lower_chars_bare {s : List Char} (bare : Bare s) : Bare (s.flatMap lowerChar) := by
  constructor
  · intro d first
    obtain ⟨c, head, member⟩ := head_flat_map lower_char_some s d first
    exact lower_char_blank (bare.head c head) member
  · intro d last
    obtain ⟨c, end_, member⟩ := last_flat_map lower_char_some s d last
    exact lower_char_blank (bare.last c end_) member

theorem lower_char_sign {c d : Char} (sign : d.toNat < 0x61) (member : d ∈ lowerChar c) : d = c := by
  rcases lower_char_cases c with rfl | same | ⟨e, low, code, other⟩
  · revert member
    rw [show lowerChar dottedCapitalI = ['i', Char.ofNat 0x307] by decide]
    simp only [List.mem_cons, List.not_mem_nil, or_false]
    rintro (rfl | rfl) <;> revert sign <;> decide
  · rw [same] at member
    exact List.mem_singleton.1 member
  · rw [low, List.mem_singleton] at member
    rcases lower_in_cases c.toNat lowerRuns with same | ⟨run, inside, covered, found⟩
    · exact absurd same other
    · have within := List.all_eq_true.1 runs_within run inside
      simp only [Bool.and_eq_true, decide_eq_true_eq] at within
      simp only [CaseRun.covers, Bool.and_eq_true, decide_eq_true_eq] at covered
      rw [lowerCode, found] at code
      rw [member, code] at sign
      omega

end Characterwise

section Ascii

theorem upper_cases (c : Char) :
    c.toUpper = c ∨ (97 ≤ c.toNat ∧ c.toNat ≤ 122 ∧ c.toUpper.toNat = c.toNat - 32) := by
  unfold Char.toUpper
  split
  · rename_i small
    simp only [UInt32.le_iff_toNat_le] at small
    refine .inr ⟨small.1, small.2, ?_⟩
    have shift : ('A'.val - 'a'.val).toNat = 2 ^ 32 - 32 := by decide
    have least : 97 ≤ c.val.toNat := small.1
    have most : c.val.toNat ≤ 122 := small.2
    change (c.val + ('A'.val - 'a'.val)).toNat = c.val.toNat - 32
    rw [UInt32.toNat_add, shift]
    omega
  · exact .inl rfl

theorem upper_upper (c : Char) : c.toUpper.toUpper = c.toUpper := by
  rcases upper_cases c with same | ⟨least, most, code⟩
  · rw [same, same]
  · rcases upper_cases c.toUpper with same | ⟨high, _, _⟩
    · exact same
    · omega

theorem upper_blank (c : Char) : isBlank c.toUpper = isBlank c := by
  rcases upper_cases c with same | ⟨least, most, code⟩
  · rw [same]
  · rw [Bool.eq_iff_iff]
    simp [isBlank, code]
    omega

theorem upper_brace {c d : Char} (brace : d = '{' ∨ d = '}') : c.toUpper = d ↔ c = d := by
  constructor
  · intro same
    rcases upper_cases c with kept | ⟨least, most, code⟩
    · exact kept.symm.trans same
    · rw [same] at code
      rcases brace with rfl | rfl
      · have value : '{'.toNat = 123 := rfl
        omega
      · have value : '}'.toNat = 125 := rfl
        omega
  · rintro rfl
    rcases brace with rfl | rfl <;> rfl

theorem trim_upper (s : List Char) : trim (asciiUpper s) = asciiUpper (trim s) := by
  have heedless : isBlank ∘ Char.toUpper = isBlank := funext upper_blank
  simp only [trim, trimEnd, trimStart, asciiUpper, List.dropWhile_map, ← List.map_reverse, heedless]

theorem ascii_upper_again (s : List Char) : asciiUpper (asciiUpper s) = asciiUpper s := by
  rw [asciiUpper, asciiUpper, List.map_map]
  exact List.map_congr_left fun c _ => upper_upper c

end Ascii

end Deckwright.Text
