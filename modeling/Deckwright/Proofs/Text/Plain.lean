import Deckwright.Proofs.Text.Case
import Deckwright.Text.Plain
set_option autoImplicit false

namespace Deckwright.Text

def typedCodes : List Nat :=
  [0x2018, 0x2019, 0x201C, 0x201D, 0x2012, 0x2013, 0x2014, 0x2015, 0x2212, 0x2026, 0xC6, 0xE6, 0xE1, 0xE0, 0xE2,
    0xE4, 0xE9, 0xE8, 0xEA, 0xED, 0xF3, 0xF6, 0xFA, 0xFB, 0xFC]

def accentedCapitals : List Char := ['Á', 'À', 'Â', 'Ä', 'É', 'È', 'Ê', 'Í', 'Ó', 'Ö', 'Ú', 'Û', 'Ü']

theorem plain_char_untyped {c : Char} (untyped : c.toNat ∉ typedCodes) : plainChar c = lowerChar c := by
  simp only [typedCodes, List.mem_cons, List.not_mem_nil, or_false, not_or] at untyped
  unfold plainChar
  split <;> first | rfl | omega

-- Checked along the list: the characters themselves are finitely many, but too many to go through.
theorem each_of_all {p : Char → Prop} [DecidablePred p] {s : List Char}
    (all : (s.all fun c => decide (p c)) = true) : ∀ c ∈ s, p c :=
  fun c member => of_decide_eq_true (List.all_eq_true.1 all c member)

theorem typed_settled : ∀ n ∈ typedCodes,
    ((plainChar (Char.ofNat n)).all fun d => decide (plainChar d = [d])) = true ∧
      plain (lowerChar (Char.ofNat n)) = plainChar (Char.ofNat n) := by
  decide +kernel

theorem accented_capital_lower : ∀ c ∈ accentedCapitals, plainChar c = lowerChar c ∧
    (lowerChar c).length = 1 ∧ (plain (lowerChar c)).length = 1 ∧ plain (lowerChar c) ≠ lowerChar c :=
  each_of_all (by decide)

theorem typed_unaccented : ∀ c ∈ accentedCapitals, c.toNat ∉ typedCodes :=
  each_of_all (by decide)

theorem typed_runs : (lowerRuns.all fun run =>
    decide (0xC0 ≤ run.first ∧ run.last ≤ 0xDE ∧ run.shift = 32) ||
      typedCodes.all fun n => run.misses (run.first + run.shift).toNat ⟨n, n, 1, 0⟩) = true := by
  decide +kernel

theorem typed_capitals : ∀ n ∈ typedCodes, 0xC0 ≤ n - 32 → n - 32 ≤ 0xDE →
    n - 32 ∈ typedCodes ∨ Char.ofNat (n - 32) ∈ accentedCapitals := by
  decide

theorem lower_code_typed {n : Nat} (typed : lowerCode n ∈ typedCodes) (other : lowerCode n ≠ n) :
    n ∈ typedCodes ∨ Char.ofNat n ∈ accentedCapitals := by
  rcases lower_in_cases n lowerRuns with same | ⟨run, member, covered, lower⟩
  · exact absurd same other
  have found : lowerCode n = (n + run.shift).toNat := lower
  have above := List.all_eq_true.1 runs_within run member
  simp only [Bool.and_eq_true, decide_eq_true_eq] at above
  have ends : run.first ≤ n ∧ n ≤ run.last := by
    simp only [CaseRun.covers, Bool.and_eq_true, decide_eq_true_eq] at covered
    exact covered.1
  rcases Bool.or_eq_true_iff.1 (List.all_eq_true.1 typed_runs run member) with latin | apart
  · obtain ⟨least, most, shift⟩ := of_decide_eq_true latin
    have back : lowerCode n - 32 = n := by omega
    rw [← back]
    exact typed_capitals _ typed (by omega) (by omega)
  · have missed := covers_missed covered (by omega) (List.all_eq_true.1 apart _ typed)
    rw [← found] at missed
    simp [CaseRun.covers] at missed

theorem lower_untyped {c : Char} (untyped : c.toNat ∉ typedCodes) (unaccented : c ∉ accentedCapitals) :
    ∀ d ∈ lowerChar c, d.toNat ∉ typedCodes := by
  rcases lower_char_cases c with rfl | same | ⟨d, low, code, other⟩
  · exact each_of_all (by decide)
  · rw [same]
    simpa using untyped
  · rw [low]
    intro e member typed
    rw [List.mem_singleton.1 member, code] at typed
    have capital := lower_code_typed typed other
    rw [Char.ofNat_toNat] at capital
    exact capital.elim untyped unaccented

theorem plain_of_settled {s : List Char} (settled : ∀ c ∈ s, plainChar c = [c]) : plain s = s := by
  induction s with
  | nil => rfl
  | cons c rest ih =>
    have here : plain (c :: rest) = plainChar c ++ plain rest := rfl
    rw [here, settled c (by simp), ih fun d member => settled d (List.mem_cons_of_mem c member)]
    rfl

theorem plain_char_settled {c : Char} (unaccented : c ∉ accentedCapitals) : ∀ d ∈ plainChar c, plainChar d = [d] := by
  by_cases typed : c.toNat ∈ typedCodes
  · obtain ⟨settled, _⟩ := typed_settled c.toNat typed
    rw [Char.ofNat_toNat] at settled
    exact each_of_all settled
  · intro d member
    rw [plain_char_untyped typed] at member
    rw [plain_char_untyped (lower_untyped typed unaccented d member)]
    rcases lower_char_shape c with other | ⟨same, settled⟩
    · exact (other d member).1.lower
    · rw [same, List.mem_singleton] at member
      exact member ▸ settled.lower

theorem plain_char_again (c : Char) : (plain (plainChar c)).length = (plainChar c).length ∧
    (plain (plainChar c) = plainChar c ↔ c ∉ accentedCapitals) := by
  by_cases accented : c ∈ accentedCapitals
  · obtain ⟨low, one, again, other⟩ := accented_capital_lower c accented
    rw [low]
    exact ⟨again.trans one.symm, fun same => absurd same other, fun out => absurd accented out⟩
  · have same := plain_of_settled (plain_char_settled accented)
    exact ⟨congrArg List.length same, fun _ => accented, fun _ => same⟩

theorem plain_char_lower (c : Char) : (plain (lowerChar c)).length = (plainChar c).length ∧
    (plain (lowerChar c) = plainChar c ↔ c ∉ accentedCapitals) := by
  by_cases typed : c.toNat ∈ typedCodes
  · obtain ⟨_, same⟩ := typed_settled c.toNat typed
    have unaccented : c ∉ accentedCapitals := fun accented => typed_unaccented c accented typed
    rw [Char.ofNat_toNat] at same
    exact ⟨congrArg List.length same, fun _ => unaccented, fun _ => same⟩
  · rw [← plain_char_untyped typed]
    exact plain_char_again c

theorem flat_map_eq {f g : Char → List Char} (even : ∀ c, (f c).length = (g c).length) (s : List Char) :
    s.flatMap f = s.flatMap g ↔ ∀ c ∈ s, f c = g c := by
  induction s with
  | nil => simp
  | cons c rest ih =>
    rw [List.flatMap_cons, List.flatMap_cons, List.forall_mem_cons, ← ih]
    exact ⟨fun same => List.append_inj same (even c), fun ⟨here, later⟩ => by rw [here, later]⟩

theorem plain_again (s : List Char) : plain (plain s) = plain s ↔ ∀ c ∈ s, c ∉ accentedCapitals := by
  have twice : plain (plain s) = s.flatMap fun c => plain (plainChar c) := List.flatMap_assoc
  rw [twice, plain, flat_map_eq fun c => (plain_char_again c).1]
  exact forall₂_congr fun c _ => (plain_char_again c).2

theorem plain_lowered (s : List Char) :
    plain (s.flatMap lowerChar) = plain s ↔ ∀ c ∈ s, c ∉ accentedCapitals := by
  have first : plain (s.flatMap lowerChar) = s.flatMap fun c => plain (lowerChar c) := List.flatMap_assoc
  rw [first, plain, flat_map_eq fun c => (plain_char_lower c).1]
  exact forall₂_congr fun c _ => (plain_char_lower c).2

theorem plain_pieces (s : List Char) : (∃ t, plain t = s) ↔ ∀ d ∈ s, ∃ c, plainChar c = [d] := by
  constructor
  · rintro ⟨t, rfl⟩ d member
    obtain ⟨c, _, here⟩ := List.mem_flatMap.1 member
    by_cases accented : c ∈ accentedCapitals
    · obtain ⟨low, one, _, _⟩ := accented_capital_lower c accented
      obtain ⟨e, single⟩ := List.length_eq_one_iff.1 (low ▸ one)
      rw [single, List.mem_singleton] at here
      exact ⟨c, here ▸ single⟩
    · exact ⟨d, plain_char_settled accented d here⟩
  · intro settled
    induction s with
    | nil => exact ⟨[], rfl⟩
    | cons d rest ih =>
      obtain ⟨c, here⟩ := settled d (by simp)
      obtain ⟨t, later⟩ := ih fun e member => settled e (List.mem_cons_of_mem d member)
      refine ⟨c :: t, ?_⟩
      rw [plain, List.flatMap_cons, here, ← plain, later]
      rfl

end Deckwright.Text
