import Mathlib.Data.List.Basic
import Deckwright.Proofs.Text.Case
set_option autoImplicit false

namespace Deckwright.Text

theorem ascii_each {p : Char → Prop} [DecidablePred p] (all : ∀ n < 128, p (Char.ofNat n)) {c : Char}
    (ascii : c.toNat < 128) : p c := by
  have here := all c.toNat ascii
  rwa [Char.ofNat_toNat] at here

theorem ascii_lower_char {c : Char} (ascii : c.toNat < 128) : lowerChar c = [c.toLower] :=
  ascii_each (p := fun c => lowerChar c = [c.toLower]) (by decide) ascii

theorem to_lower_ascii {c : Char} (ascii : c.toNat < 128) : c.toLower.toNat < 128 :=
  ascii_each (p := fun c => c.toLower.toNat < 128) (by decide) ascii

theorem to_lower_other {c : Char} (other : ¬ c.toNat < 128) : c.toLower = c := by
  unfold Char.toLower
  rw [dif_neg]
  rintro ⟨_, most⟩
  have value : c.toNat ≤ 90 := most
  omega

theorem to_lower_again (c : Char) : c.toLower.toLower = c.toLower := by
  by_cases ascii : c.toNat < 128
  · exact ascii_each (p := fun c => c.toLower.toLower = c.toLower) (by decide) ascii
  · rw [to_lower_other ascii, to_lower_other ascii]

theorem ascii_lower_again (s : List Char) : asciiLower (asciiLower s) = asciiLower s := by
  rw [asciiLower, asciiLower, List.map_map]
  exact List.map_congr_left fun c _ => to_lower_again c

theorem to_lower_alike (c : Char) : lowerChar c.toLower = lowerChar c ∧
    inRanges c.toLower.toNat casedRanges = inRanges c.toNat casedRanges ∧
    inRanges c.toLower.toNat caseIgnorableRanges = inRanges c.toNat caseIgnorableRanges ∧
    (c.toLower = capitalSigma ↔ c = capitalSigma) := by
  by_cases ascii : c.toNat < 128
  · exact ascii_each (p := fun c => lowerChar c.toLower = lowerChar c ∧
      inRanges c.toLower.toNat casedRanges = inRanges c.toNat casedRanges ∧
      inRanges c.toLower.toNat caseIgnorableRanges = inRanges c.toNat caseIgnorableRanges ∧
      (c.toLower = capitalSigma ↔ c = capitalSigma)) (by decide) ascii
  · rw [to_lower_other ascii]
    exact ⟨rfl, rfl, rfl, Iff.rfl⟩

theorem next_is_cased_cons (c : Char) (s : List Char) : nextIsCased (c :: s) =
    if inRanges c.toNat caseIgnorableRanges then nextIsCased s else inRanges c.toNat casedRanges := by
  unfold nextIsCased
  rw [List.dropWhile_cons]
  by_cases passed : inRanges c.toNat caseIgnorableRanges = true
  · rw [if_pos passed, if_pos passed]
  · rw [if_neg passed, if_neg passed]

theorem next_is_cased_ascii (s : List Char) : nextIsCased (asciiLower s) = nextIsCased s := by
  induction s with
  | nil => rfl
  | cons c rest ih =>
    obtain ⟨_, cased, ignorable, _⟩ := to_lower_alike c
    have shape : asciiLower (c :: rest) = c.toLower :: asciiLower rest := rfl
    rw [shape, next_is_cased_cons, next_is_cased_cons, cased, ignorable, ih]

theorem lower_from_ascii (before s : List Char) : lowerFrom (asciiLower before) (asciiLower s) = lowerFrom before s := by
  induction s generalizing before with
  | nil => rfl
  | cons c rest ih =>
    obtain ⟨small, _, _, sigma⟩ := to_lower_alike c
    have shape : asciiLower (c :: rest) = c.toLower :: asciiLower rest := rfl
    have later : lowerFrom (c.toLower :: asciiLower before) (asciiLower rest) = lowerFrom (c :: before) rest := ih (c :: before)
    rw [shape, lowerFrom, lowerFrom, later, small, next_is_cased_ascii, next_is_cased_ascii]
    simp only [sigma]

theorem lower_ascii_lower (s : List Char) : lower (asciiLower s) = lower s := lower_from_ascii [] s

theorem lower_of_ascii_same {s t : List Char} (same : asciiLower s = asciiLower t) : lower s = lower t := by
  rw [← lower_ascii_lower s, same, lower_ascii_lower]

theorem Settled.to_lower {c : Char} (settled : Settled c) : c.toLower = c := by
  by_cases ascii : c.toNat < 128
  · have small := settled.lower
    rw [ascii_lower_char ascii] at small
    exact List.singleton_inj.1 small
  · exact to_lower_other ascii

theorem ascii_lower_lower (s : List Char) : asciiLower (lower s) = lower s := by
  have each : ∀ c ∈ lower s, c.toLower = c := fun c member => (lower_from_all [] s c member).to_lower
  rw [asciiLower, List.map_congr_left each, List.map_id']

theorem lower_step_ascii (c : Char) (final : Bool) (s t : List Char) :
    (if c = capitalSigma && final then [finalSigma] else lowerChar c) ++ s = c.toLower :: t ↔
      (c.toNat < 128 ∨ lowerChar c = [c]) ∧ s = t := by
  by_cases dotted : c = dottedCapitalI
  · subst dotted
    have two : lowerChar dottedCapitalI = ['i', Char.ofNat 0x307] := by decide
    have same : dottedCapitalI.toLower = dottedCapitalI := by decide
    have apart : 'i' ≠ dottedCapitalI := by decide
    have high : ¬ dottedCapitalI.toNat < 128 := by decide
    have sign : dottedCapitalI ≠ capitalSigma := by decide
    simp [two, same, apart, high, sign]
  by_cases sigma : c = capitalSigma
  · subst sigma
    have small : lowerChar capitalSigma = [Char.ofNat 0x3C3] := by decide
    have same : capitalSigma.toLower = capitalSigma := by decide
    have apart : Char.ofNat 0x3C3 ≠ capitalSigma ∧ finalSigma ≠ capitalSigma := by decide
    have high : ¬ capitalSigma.toNat < 128 := by decide
    cases final <;> simp [small, same, apart, high]
  · obtain ⟨d, one⟩ : ∃ d, lowerChar c = [d] := ⟨_, by rw [lowerChar, if_neg dotted]⟩
    have kept : d = c.toLower ↔ c.toNat < 128 ∨ lowerChar c = [c] := by
      by_cases ascii : c.toNat < 128
      · rw [ascii_lower_char ascii, List.singleton_inj] at one
        exact iff_of_true one.symm (.inl ascii)
      · rw [to_lower_other ascii, one, List.singleton_inj]
        simp [ascii]
    rw [← kept, one]
    simp [sigma]

theorem lower_from_eq_ascii (before s : List Char) :
    lowerFrom before s = asciiLower s ↔ ∀ c ∈ s, c.toNat < 128 ∨ lowerChar c = [c] := by
  induction s generalizing before with
  | nil => simp [lowerFrom, asciiLower]
  | cons c rest ih =>
    have shape : asciiLower (c :: rest) = c.toLower :: asciiLower rest := rfl
    rw [shape, lowerFrom, Bool.and_assoc, lower_step_ascii, ih, List.forall_mem_cons]

theorem lower_eq_ascii_iff (s : List Char) :
    lower s = asciiLower s ↔ ∀ c ∈ s, c.toNat < 128 ∨ lowerChar c = [c] := lower_from_eq_ascii [] s

section Texts

theorem lowered_some {s : String} (some : s ≠ "") : lowered s ≠ "" := by
  intro none
  have letters : lower s.toList = [] := by simpa [lowered] using congrArg String.toList none
  cases shape : s.toList with
  | nil => exact some (String.toList_eq_nil_iff.1 shape)
  | cons c rest =>
    rw [shape, lower, lowerFrom, List.append_eq_nil_iff] at letters
    have here := letters.1
    split at here
    · cases here
    · exact lower_char_some c here

theorem ascii_lowered_lowered (s : String) : asciiLowered (lowered s) = lowered s := by
  rw [asciiLowered, lowered, String.toList_ofList, ascii_lower_lower]

theorem lowered_eq_ascii_iff (s : String) : lowered s = asciiLowered s ↔
    ∀ c ∈ s.toList, c.toNat < 128 ∨ lowerChar c = [c] := by
  rw [← lower_eq_ascii_iff, lowered, asciiLowered, String.ofList_inj]

theorem lowered_eq_iff (s t : String) : lowered s = lowered t ↔ lower s.toList = lower t.toList := by
  rw [lowered, lowered, String.ofList_inj]

end Texts

section Spelling

/-- No text has the same lower case but for those that differ in ASCII letters only. -/
def SoleSpelling (s : List Char) : Prop := ∀ t, lower t = lower s → asciiLower t = asciiLower s

def kelvin : Char := Char.ofNat 0x212A

-- The sign for kelvin is all that has a letter of ASCII for its small letter and is none itself.
theorem ascii_runs : (lowerRuns.all fun run => decide (128 ≤ run.first + run.shift) || decide (run.last < 128) ||
    decide (run.first = 0x212A ∧ run.last = 0x212A)) = true := by
  decide

theorem ascii_or_kelvin {c : Char} (small : ∀ d ∈ lowerChar c, d.toNat < 128) : c.toNat < 128 ∨ c = kelvin := by
  rcases lower_char_cases c with rfl | same | ⟨d, low, code, other⟩
  · exact absurd (small (Char.ofNat 0x307) (by decide)) (by decide)
  · exact .inl (small c (by rw [same]; exact List.mem_singleton_self c))
  · have below := small d (by rw [low]; exact List.mem_singleton_self d)
    rcases lower_in_cases c.toNat lowerRuns with same | ⟨run, member, covered, found⟩
    · exact absurd same other
    · have kinds := List.all_eq_true.1 ascii_runs run member
      simp only [Bool.or_eq_true, decide_eq_true_eq] at kinds
      simp only [CaseRun.covers, Bool.and_eq_true, decide_eq_true_eq] at covered
      rw [lowerCode, found] at code
      rcases kinds with (above | within) | ⟨first, last⟩
      · omega
      · exact .inl (by omega)
      · have sign : c.toNat = 0x212A := by omega
        exact .inr (by rw [← Char.ofNat_toNat c, sign, kelvin])

theorem ascii_of_lower_from {before s : List Char} (small : ∀ d ∈ lowerFrom before s, d.toNat < 128 ∧ d ≠ 'k') :
    ∀ c ∈ s, c.toNat < 128 := by
  induction s generalizing before with
  | nil => simp
  | cons c rest ih =>
    rw [lowerFrom, List.forall_mem_append] at small
    refine List.forall_mem_cons.2 ⟨?_, ih small.2⟩
    have here := small.1
    split at here
    · exact absurd (here finalSigma (by simp)).1 (by decide)
    · rcases ascii_or_kelvin fun d member => (here d member).1 with ascii | rfl
      · exact ascii
      · exact absurd rfl (here 'k' (by decide)).2

theorem lower_from_unsigned {before s : List Char} (unsigned : capitalSigma ∉ s) :
    lowerFrom before s = s.flatMap lowerChar := by
  induction s generalizing before with
  | nil => rfl
  | cons c rest ih =>
    obtain ⟨first, later⟩ := not_or.1 (mt List.mem_cons.2 unsigned)
    rw [lowerFrom, ih later, List.flatMap_cons]
    simp [Ne.symm first]

def withKelvin (s : List Char) : List Char := s.map fun c => if c.toLower = 'k' then kelvin else c

theorem lower_with_kelvin {s : List Char} (ascii : ∀ c ∈ s, c.toNat < 128) : lower (withKelvin s) = lower s := by
  have high : ¬ capitalSigma.toNat < 128 := by decide
  have unsigned : capitalSigma ∉ s := fun member => high (ascii _ member)
  have replaced : capitalSigma ∉ withKelvin s := by
    intro member
    obtain ⟨c, inside, same⟩ := List.mem_map.1 member
    split at same
    · exact absurd same (by decide)
    · exact unsigned (same ▸ inside)
  rw [lower, lower, lower_from_unsigned unsigned, lower_from_unsigned replaced, withKelvin, List.flatMap_map]
  refine List.flatMap_congr fun c member => ?_
  split
  · rename_i letter
    rw [ascii_lower_char (ascii c member), letter]
    decide
  · rfl

theorem sole_spelling_ascii {s : List Char} (ascii : ∀ c ∈ s, c.toNat < 128) :
    SoleSpelling s ↔ 'k' ∉ asciiLower s := by
  have small : ∀ d ∈ asciiLower s, d.toNat < 128 := by
    intro d member
    obtain ⟨c, inside, rfl⟩ := List.mem_map.1 member
    exact to_lower_ascii (ascii c inside)
  constructor
  · intro sole letter
    obtain ⟨c, inside, same⟩ := List.mem_map.1 letter
    have sign : kelvin ∈ asciiLower (withKelvin s) :=
      List.mem_map.2 ⟨kelvin, List.mem_map.2 ⟨c, inside, if_pos same⟩, by decide⟩
    rw [sole _ (lower_with_kelvin ascii)] at sign
    exact absurd (small _ sign) (by decide)
  · intro none t same
    have plain : lower s = asciiLower s := (lower_eq_ascii_iff s).2 fun c member => .inl (ascii c member)
    have others : ∀ c ∈ t, c.toNat < 128 := by
      refine @ascii_of_lower_from [] t fun d member => ?_
      have inside : d ∈ asciiLower s := plain ▸ same ▸ member
      exact ⟨small d inside, fun letter => none (letter ▸ inside)⟩
    rw [← (lower_eq_ascii_iff t).2 fun c member => .inl (others c member), same, plain]

end Spelling

end Deckwright.Text
