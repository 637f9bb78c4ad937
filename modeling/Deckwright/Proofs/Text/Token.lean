import Deckwright.Proofs.Text.Search
set_option autoImplicit false

namespace Deckwright.Text

def tokens (s : List Char) : List (List Char) := (s.splitOnP isBlank).filter fun w => !w.isEmpty

def Solid (s : List Char) : Prop := ∀ c ∈ s, isBlank c = false

section Tokens

theorem tokens_solid {w : List Char} (solid : Solid w) (some : w ≠ []) : tokens w = [w] := by
  rw [tokens, List.splitOnP_eq_singleton solid]
  simpa using some

theorem tokens_split {c : Char} (blank : isBlank c = true) (s t : List Char) :
    tokens (s ++ c :: t) = tokens s ++ tokens t := by
  rw [tokens, List.splitOnP_append_cons s t blank, List.filter_append]
  rfl

theorem tokens_of_cons {c : Char} (blank : isBlank c = true) (s : List Char) : tokens (c :: s) = tokens s :=
  tokens_split blank [] s

theorem tokens_blank_front {gap : List Char} (blank : Blank gap) (s : List Char) : tokens (gap ++ s) = tokens s := by
  induction gap with
  | nil => rfl
  | cons c gap ih =>
    obtain ⟨here, later⟩ := List.forall_mem_cons.1 blank
    rw [List.cons_append, tokens_of_cons here, ih later]

theorem tokens_blank_back {gap : List Char} (blank : Blank gap) (s : List Char) : tokens (s ++ gap) = tokens s := by
  cases gap with
  | nil => rw [List.append_nil]
  | cons c gap =>
    obtain ⟨here, later⟩ := List.forall_mem_cons.1 blank
    have none := tokens_blank_front later []
    rw [List.append_nil] at none
    rw [tokens_split here, none]
    exact List.append_nil _

end Tokens

/-- Where a token stands: between blanks or the ends of the text. -/
structure Between (w s front back : List Char) : Prop where
  split : s = front ++ w ++ back
  left : ∀ c ∈ front.getLast?, isBlank c = true
  right : ∀ c ∈ back.head?, isBlank c = true
  solid : Solid w
  some : w ≠ []

theorem token_between {w s : List Char} (member : w ∈ tokens s) : ∃ front back, Between w s front back := by
  induction size : s.length using Nat.strongRecOn generalizing s with
  | ind n ih =>
    by_cases solid : Solid s
    · have some : s ≠ [] := by
        rintro rfl
        cases member
      rw [tokens_solid solid some] at member
      obtain rfl := List.mem_singleton.1 member
      exact ⟨[], [], by simp, by simp, by simp, solid, some⟩
    · simp only [Solid, not_forall, Bool.not_eq_false] at solid
      obtain ⟨c, inside, blank⟩ := solid
      obtain ⟨s, t, rfl⟩ := List.append_of_mem inside
      rw [List.length_append, List.length_cons] at size
      rw [tokens_split blank] at member
      rcases List.mem_append.1 member with early | late
      · obtain ⟨front, back, here⟩ := ih s.length (by omega) early rfl
        refine ⟨front, back ++ c :: t, by rw [here.split]; simp, here.left, ?_, here.solid, here.some⟩
        cases back with
        | nil => simpa using blank
        | cons d back => exact here.right
      · obtain ⟨front, back, here⟩ := ih t.length (by omega) late rfl
        refine ⟨s ++ c :: front, back, by rw [here.split]; simp, ?_, here.right, here.solid, here.some⟩
        rw [List.getLast?_append, List.getLast?_cons]
        cases last : front.getLast? with
        | none => simpa using blank
        | some d => simpa using here.left d last

section Blanks

def blankCodes : List Nat :=
  [9, 10, 11, 12, 13, 0x20, 0x85, 0xA0, 0x1680, 0x2000, 0x2001, 0x2002, 0x2003, 0x2004, 0x2005, 0x2006, 0x2007,
    0x2008, 0x2009, 0x200A, 0x2028, 0x2029, 0x202F, 0x205F, 0x3000]

theorem blank_code {c : Char} (blank : isBlank c = true) : c.toNat ∈ blankCodes := by
  simp only [isBlank, Bool.or_eq_true, Bool.and_eq_true, decide_eq_true_eq, beq_iff_eq] at blank
  simp only [blankCodes, List.mem_cons, List.not_mem_nil, or_false]
  omega

theorem blank_codes_plain : ∀ n ∈ blankCodes,
    isAlphanumeric (Char.ofNat n) = false ∧ plainChar (Char.ofNat n) = [Char.ofNat n] := by
  decide +kernel

theorem blank_plain {c : Char} (blank : isBlank c = true) : isAlphanumeric c = false ∧ plainChar c = [c] := by
  have plain := blank_codes_plain c.toNat (blank_code blank)
  rwa [Char.ofNat_toNat] at plain

theorem plain_blank {s : List Char} (blank : Blank s) : plain s = s :=
  plain_of_settled fun c member => (blank_plain (blank c member)).2

end Blanks

theorem token_found {w s : List Char} (member : w ∈ tokens s) : standsIn w s = true := by
  obtain ⟨front, back, here⟩ := token_between member
  have left : Open front.getLast? := fun c last => (blank_plain (here.left c last)).1
  have right : Open back.head? := fun c first => (blank_plain (here.right c first)).1
  refine bounded_complete here.some (fun gap rest begun ends both => Nat.le_of_not_lt fun short => ?_) here.split
    (Nat.zero_le _) (by rwa [Option.or_none]) right
  -- The gap ends in a blank, and a longer word would have that blank in it.
  rw [List.append_assoc] at both
  have inside : gap <+: w :=
    List.prefix_of_prefix_length_le ⟨w ++ back, rfl⟩ ⟨rest, both⟩ (Nat.le_of_lt short)
  obtain ⟨early, rfl⟩ := ends
  have last : (early ++ gap).getLast? = some (gap.getLast begun) := by
    rw [List.getLast?_append, List.getLast?_eq_some_getLast begun]
    rfl
  have blank := here.left _ last
  rw [here.solid _ (inside.subset (List.getLast_mem begun))] at blank
  cases blank

section Terms

theorem terms_from_unquoted {s : List Char} (unquoted : '"' ∉ s) :
    termsFrom .between s = tokens s ∧
      ∀ reversed, reversed ≠ [] → Solid reversed → termsFrom (.word reversed) s = tokens (reversed.reverse ++ s) := by
  have word {reversed : List Char} (begun : reversed ≠ []) (solid : Solid reversed) :
      tokens reversed.reverse = [reversed.reverse] :=
    tokens_solid (fun c member => solid c (List.mem_reverse.1 member)) (List.reverse_ne_nil_iff.2 begun)
  induction s with
  | nil =>
    refine ⟨rfl, fun reversed begun solid => ?_⟩
    rw [termsFrom, List.append_nil, word begun solid]
  | cons c s ih =>
    simp only [List.mem_cons, not_or] at unquoted
    obtain ⟨between, inside⟩ := ih unquoted.2
    cases blank : isBlank c with
    | true =>
      refine ⟨?_, fun reversed begun solid => ?_⟩
      · rw [termsFrom, if_pos blank, between, tokens_of_cons blank]
      · rw [termsFrom, if_pos blank, between, tokens_split blank, word begun solid]
        rfl
    | false =>
      have unblank : ¬ isBlank c = true := by simp [blank]
      refine ⟨?_, fun reversed begun solid => ?_⟩
      · rw [termsFrom, if_neg unblank, if_neg (Ne.symm unquoted.1), inside [c] (by simp) (by simpa [Solid] using blank)]
        rfl
      · rw [termsFrom, if_neg unblank, inside (c :: reversed) (by simp) (List.forall_mem_cons.2 ⟨blank, solid⟩)]
        simp

theorem terms_unquoted {s : List Char} (unquoted : '"' ∉ s) : terms s = tokens s := (terms_from_unquoted unquoted).1

theorem tokens_plain_trim (s : List Char) : tokens (plain s) = tokens (plain (trim s)) := by
  obtain ⟨front, back, before, behind, split⟩ := trim_split s
  conv => lhs; rw [split]
  rw [plain_append, plain_append, plain_blank before, plain_blank behind, tokens_blank_front before,
    tokens_blank_back behind]

end Terms

end Deckwright.Text
