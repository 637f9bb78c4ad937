import Deckwright.Proofs.Text.Token
set_option autoImplicit false

/- What holds of a round holds of the whole line, and the scan that reads the line a character at a time finds
   the same words and phrases. -/
namespace Deckwright.Text

-- Where a round begins there is no blank. A phrase goes up to the next quote, and to the end of
-- the line if there is none.
def termRound : List Char → List (List Char) × List Char
  | [] => ([], [])
  | c :: s =>
    if c = '"' then (quotedTerm (s.takeWhile (· ≠ '"')).reverse, (s.dropWhile (· ≠ '"')).tail)
    else ([(firstWord (c :: s)).1], (firstWord (c :: s)).2)

theorem term_round_shorter {c : Char} {s : List Char} (begun : isBlank c = false) :
    (termRound (c :: s)).2.length < (c :: s).length := by
  rw [termRound]
  split
  · have left := (List.dropWhile_suffix (l := s) (· ≠ '"')).length_le
    rw [List.length_tail, List.length_cons]
    omega
  · have left := (List.dropWhile_suffix (l := s) fun d => !isBlank d).length_le
    simp only [firstWord, List.dropWhile_cons, begun, Bool.not_false, if_true, List.length_cons]
    omega

theorem rounds_shrink {s rest : List Char} {c : Char} (left : trimStart s = c :: rest) :
    (termRound (c :: rest)).2.length < s.length := by
  have begun := head_trim_start s c (by rw [left]; rfl)
  have shorter := term_round_shorter (s := rest) begun
  have trimmed := (List.dropWhile_suffix (l := s) isBlank).length_le
  rw [← trimStart, left] at trimmed
  omega

def termsByRounds (s : List Char) : List (List Char) :=
  match left : trimStart s with
  | [] => []
  | c :: rest =>
    have := rounds_shrink left
    (termRound (c :: rest)).1 ++ termsByRounds (termRound (c :: rest)).2
termination_by s.length

def isContent (c : Char) : Bool := !isBlank c && c != '"'

section Round

theorem content_blank {s : List Char} (blank : Blank s) : s.filter isContent = [] := by
  refine List.filter_eq_nil_iff.2 fun c member => ?_
  simp [isContent, blank c member]

theorem content_trim_start (s : List Char) : (trimStart s).filter isContent = s.filter isContent := by
  have front : Blank (s.takeWhile isBlank) := fun c member => List.mem_takeWhile_imp member
  have split := congrArg (List.filter isContent) (List.takeWhile_append_dropWhile (p := isBlank) (l := s))
  rwa [List.filter_append, content_blank front, List.nil_append] at split

theorem content_trim (s : List Char) : (trim s).filter isContent = s.filter isContent := by
  obtain ⟨gap, blank, split⟩ := trim_end_split (trimStart s)
  have kept := congrArg (List.filter isContent) split
  rw [List.filter_append, content_blank blank, List.append_nil, content_trim_start] at kept
  exact kept.symm

theorem quoted_term_content (reversed : List Char) :
    (quotedTerm reversed).flatten.filter isContent = reversed.reverse.filter isContent := by
  rw [← content_trim reversed.reverse, quotedTerm]
  split
  · rename_i none
    rw [List.isEmpty_iff.1 none]
    rfl
  · simp

theorem term_round_content (s : List Char) :
    (termRound s).1.flatten.filter isContent ++ (termRound s).2.filter isContent = s.filter isContent := by
  cases s with
  | nil => rfl
  | cons c s =>
    rw [termRound]
    by_cases quote : c = '"'
    · subst quote
      have behind : (s.dropWhile (· ≠ '"')).tail.filter isContent = (s.dropWhile (· ≠ '"')).filter isContent := by
        cases left : s.dropWhile (· ≠ '"') with
        | nil => rfl
        | cons d t =>
          have closing := List.head?_dropWhile_not (· ≠ '"') s
          rw [left] at closing
          obtain rfl : d = '"' := by simpa using closing
          rfl
      rw [if_pos rfl, quoted_term_content, List.reverse_reverse, behind, ← List.filter_append,
        List.takeWhile_append_dropWhile]
      rfl
    · rw [if_neg quote, List.flatten_singleton, ← List.filter_append, firstWord_append]

theorem term_round_words {c : Char} {s : List Char} (begun : isBlank c = false) :
    ∀ w ∈ (termRound (c :: s)).1, w ≠ [] ∧ Bare w := by
  intro w member
  rw [termRound] at member
  split at member
  · unfold quotedTerm at member
    dsimp only at member
    split at member
    · cases member
    · rename_i some
      rw [List.mem_singleton.1 member]
      exact ⟨fun none => some (List.isEmpty_iff.2 none), trim_bare _⟩
  · obtain rfl := List.mem_singleton.1 member
    refine ⟨by simp [firstWord, begun], bare_of_all fun d inside => ?_⟩
    simpa using List.mem_takeWhile_imp inside

end Round

section Line

theorem rounds_words (s : List Char) : ∀ w ∈ termsByRounds s, w ≠ [] ∧ Bare w := by
  fun_induction termsByRounds s with
  | case1 => exact fun w member => absurd member List.not_mem_nil
  | case2 s c rest left _ ih =>
    have begun := head_trim_start s c (by rw [left]; rfl)
    intro w member
    exact (List.mem_append.1 member).elim (term_round_words begun w) (ih w)

theorem rounds_content (s : List Char) : (termsByRounds s).flatten.filter isContent = s.filter isContent := by
  fun_induction termsByRounds s with
  | case1 s left =>
    rw [← content_trim_start s, left]
    rfl
  | case2 s c rest left _ ih =>
    rw [List.flatten_append, List.filter_append, ih, term_round_content, ← left, content_trim_start]

end Line

section Scan

theorem terms_from_trim (s : List Char) : termsFrom .between (trimStart s) = termsFrom .between s := by
  induction s with
  | nil => rfl
  | cons c s ih =>
    cases blank : isBlank c with
    | true =>
      rw [termsFrom, if_pos blank, ← ih]
      simp [trimStart, blank]
    | false => simp [trimStart, blank]

theorem terms_from_word (reversed s : List Char) :
    termsFrom (.word reversed) s = (reversed.reverse ++ (firstWord s).1) :: termsFrom .between (firstWord s).2 := by
  induction s generalizing reversed with
  | nil => simp [termsFrom, firstWord]
  | cons c s ih =>
    cases blank : isBlank c with
    | true => simp [termsFrom, firstWord, blank]
    | false =>
      rw [termsFrom, if_neg (by simp [blank]), ih]
      simp [firstWord, blank]

theorem terms_from_quoted (reversed s : List Char) :
    termsFrom (.quoted reversed) s =
      quotedTerm ((s.takeWhile (· ≠ '"')).reverse ++ reversed) ++ termsFrom .between (s.dropWhile (· ≠ '"')).tail := by
  induction s generalizing reversed with
  | nil => simp [termsFrom]
  | cons c s ih =>
    by_cases quote : c = '"'
    · simp [termsFrom, quote]
    · rw [termsFrom, if_neg quote, ih]
      simp [quote]

theorem terms_from_round {c : Char} (s : List Char) (begun : isBlank c = false) :
    termsFrom .between (c :: s) = (termRound (c :: s)).1 ++ termsFrom .between (termRound (c :: s)).2 := by
  rw [termsFrom, if_neg (by simp [begun]), termRound]
  split
  · rw [terms_from_quoted, List.append_nil]
  · rw [terms_from_word]
    simp [firstWord, begun]

theorem terms_by_rounds (s : List Char) : terms s = termsByRounds s := by
  rw [terms]
  fun_induction termsByRounds s with
  | case1 s left =>
    rw [← terms_from_trim, left]
    rfl
  | case2 s c rest left _ ih =>
    have begun := head_trim_start s c (by rw [left]; rfl)
    rw [← terms_from_trim, left, terms_from_round rest begun, ih]

end Scan

/-- The words of a search line are found in rounds that come to an end. None is empty or has a
    blank at either end, together they hold what the line holds besides blanks and quotes, in its
    order, and of a line without quotes they are what stands between its blanks. -/
theorem terms_lose_nothing (s : List Char) :
    terms (plain s) = termsByRounds (plain s) ∧
      (∀ w ∈ terms (plain s), w ≠ [] ∧ Bare w) ∧
      (terms (plain s)).flatten.filter isContent = (plain s).filter isContent ∧
      ('"' ∉ plain s → terms (plain s) = tokens (plain s)) := by
  refine ⟨terms_by_rounds _, ?_, ?_, terms_unquoted⟩
  · rw [terms_by_rounds]
    exact rounds_words _
  · rw [terms_by_rounds]
    exact rounds_content _

theorem stray_quotes_passed :
    terms (plain "a\"b \" C \"d \"\" \"e ".toList) = ["a\"b".toList, ['c'], ['d'], ['e']] ∧
      (terms (plain "a\"b \" C \"d \"\" \"e ".toList)).flatten.filter isContent = "abcde".toList ∧
      '"' ∉ plain "Two  Words".toList ∧ terms (plain "Two  Words".toList) = tokens (plain "Two  Words".toList) := by
  have unquoted : '"' ∉ plain "Two  Words".toList := by decide
  refine ⟨by decide, ?_, unquoted, (terms_lose_nothing "Two  Words".toList).2.2.2 unquoted⟩
  rw [(terms_lose_nothing _).2.2.1]
  decide

end Deckwright.Text
