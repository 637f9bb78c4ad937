import Deckwright.Filter.Basic
import Deckwright.Proofs.Filter.Operand
import Deckwright.Proofs.Text.Search
set_option autoImplicit false

namespace Deckwright

namespace Matcher

theorem read_words {s : List Char} (bare : patternText? s = none) :
    read s = some (.words (Text.terms (Text.plain s)) (Text.plain (Text.trim s))) := by
  rw [read, bare]

theorem words_read {s : List Char} {ws : List (List Char)} {exact : List Char}
    (found : read s = some (.words ws exact)) :
    ws = Text.terms (Text.plain s) := by
  cases pattern : patternText? s with
  | none =>
    rw [read_words pattern] at found
    cases found
    rfl
  | some p =>
    rw [read, pattern] at found
    simp [Option.bind_eq_some_iff] at found

def Stroked (s : List Char) : Prop := ∃ p, s = stroke :: (p ++ [stroke])

theorem pattern_text_none {s : List Char} : patternText? s = none ↔ ¬ Stroked (Text.trim s) := by
  unfold patternText? Stroked
  rcases Text.trim s with _ | ⟨first, _ | ⟨second, rest⟩⟩
  · simp
  · simp
  · dsimp only
    by_cases ends : first = stroke && (second :: rest).getLast? = some stroke
    · rw [if_pos ends]
      simp only [Bool.and_eq_true, decide_eq_true_eq] at ends
      obtain ⟨p, split⟩ := List.getLast?_eq_some_iff.1 ends.2
      refine ⟨fun none => ?_, fun apart => absurd ⟨p, by rw [ends.1, split]⟩ apart⟩
      cases none
    · rw [if_neg ends]
      refine ⟨fun _ ⟨p, split⟩ => ends ?_, fun _ => rfl⟩
      obtain ⟨same, tail⟩ := List.cons.inj split
      simp [same, tail]

theorem stroked_of_lower {s : List Char} (stroked : Stroked (s.flatMap Text.lowerChar)) : Stroked s := by
  obtain ⟨p, split⟩ := stroked
  obtain ⟨c, first, member⟩ := Text.head_flat_map Text.lower_char_some s stroke (by rw [split]; rfl)
  obtain ⟨d, last, inside⟩ := Text.last_flat_map Text.lower_char_some s stroke (by
    rw [split, ← List.cons_append, List.getLast?_concat]
    rfl)
  have small : stroke.toNat < 0x61 := by decide
  rw [← Text.lower_char_sign small member] at first
  rw [← Text.lower_char_sign small inside] at last
  cases s with
  | nil => cases first
  | cons a rest =>
    obtain rfl := Option.some.inj first
    cases rest with
    | nil =>
      rw [show [stroke].flatMap Text.lowerChar = [stroke] by decide] at split
      simp at split
    | cons b rest =>
      rw [List.getLast?_cons_cons] at last
      obtain ⟨q, tail⟩ := List.getLast?_eq_some_iff.1 last
      exact ⟨q, by rw [tail]⟩

end Matcher

namespace Search

open Text (Stands Hides standsIn plain)

theorem of_bare_text {text : String} (bare : Matcher.patternText? text.toList = none) :
    ∃ s : Search, s.text = text ∧
      s.matcher = .words (Text.terms (plain text.toList)) (plain (Text.trim text.toList)) :=
  ⟨⟨text, _, Matcher.read_words bare⟩, rfl, rfl⟩

/-- What a search finds it finds where the word stands. It finds a word wherever it stands unless the
    word hides a second occurrence of itself, and of such a word some text holds an unseen one. A search
    for any, all or none of its words goes by that. -/
theorem found_where_standing {s : Search} {ws : List (List Char)} {exact : List Char}
    (words : s.matcher = .words ws exact) :
    (∀ w ∈ ws, w ≠ [] ∧ (∀ field, standsIn w field = true → Stands w field) ∧
      (¬ Hides w → ∀ field, Stands w field → standsIn w field = true) ∧
      (Hides w → ∃ t, Stands w (plain t) ∧ standsIn w (plain t) = false)) ∧
    ∀ field : String,
      (s.test .anyOf field = true ↔ ∃ w ∈ ws, standsIn w field.toList = true) ∧
      (s.test .allOf field = true ↔ ∀ w ∈ ws, standsIn w field.toList = true) ∧
      (s.test .noneOf field = true ↔ ¬ ∃ w ∈ ws, standsIn w field.toList = true) := by
  have read : ws = Text.terms (plain s.text.toList) := Matcher.words_read (words ▸ s.readable)
  refine ⟨fun w member => ?_, fun field => ?_⟩
  · rw [read] at member
    obtain ⟨some, sought⟩ := Text.term_plain member
    exact ⟨some, fun _ => Text.stands_sound, fun apart _ => Text.stands_complete some apart,
      fun hides => Text.hides_plain hides sought⟩
  · rw [test, test, test, words]
    simp [Matcher.test]

-- The second "a a" stands behind a blank, and the first one covers it.
theorem phrase_unseen :
    let phrase := ['a', ' ', 'a']
    ∃ s : Search, s.text = "\"a a\"" ∧ s.test .anyOf "xa a a" = false ∧ Stands phrase "xa a a".toList ∧
      ∃ t, Stands phrase (plain t) ∧ standsIn phrase (plain t) = false := by
  intro phrase
  obtain ⟨s, text, words⟩ := @of_bare_text "\"a a\"" (by decide)
  have terms : Text.terms (plain "\"a a\"".toList) = [phrase] := by decide +kernel
  rw [terms] at words
  obtain ⟨each, modes⟩ := found_where_standing words
  obtain ⟨_, _, _, unseen⟩ := each phrase List.mem_cons_self
  have unbounded : standsIn phrase "xa a a".toList = false := by decide +kernel
  have left : Stands phrase "xa a a".toList :=
    ⟨['x', 'a', ' '], [], rfl, (Text.open_iff _).2 (by decide +kernel), (Text.open_iff _).2 rfl⟩
  have hides : Hides phrase :=
    ⟨['a', ' '], ['a'], rfl, by simp, by simp, ⟨[' ', 'a'], rfl⟩, (Text.open_iff _).2 (by decide +kernel)⟩
  refine ⟨s, text, ?_, left, unseen hides⟩
  rw [Bool.eq_false_iff]
  intro found
  obtain ⟨w, member, stands⟩ := (modes "xa a a").1.1 found
  rw [List.mem_singleton.1 member, unbounded] at stands
  cases stands

end Search

namespace Filter

open Text (plain lowerChar accentedCapitals)

theorem of_text_made {a : Aspect} (kind : a.kind = .text) (c : Containment) (s : Search) :
    ofText a c s.text = .ok (.leaf ⟨a, .contains c, .text s⟩) := by
  have checked : Leaf.check a (.contains c) (.text s) = .ok () := by
    simp [Leaf.check, Aspect.allows, Operand.suits, Operand.blemish?, kind]
  rw [ofText, Operand.of_text_again]
  dsimp only
  rw [ofLeaf, Leaf.make, checked]
  rfl

theorem small_name_matches {card : Card} {f : Face} {s : List Char} (single : card.faces = [f.completed])
    (named : f.name.toList = s) (trimmed : Text.trim s = s) (bare : Matcher.patternText? s = none) :
    ∃ filter, ofText .name .exactly (String.ofList (s.flatMap lowerChar)) = .ok filter ∧
      (filter.matchesCard card = true ↔ plain (s.flatMap lowerChar) = plain s) := by
  have small : Text.trim (s.flatMap lowerChar) = s.flatMap lowerChar :=
    Text.bare_trim (Text.lower_chars_bare (trimmed ▸ Text.trim_bare s))
  have words : Matcher.patternText? (String.ofList (s.flatMap lowerChar)).toList = none := by
    rw [String.toList_ofList, Matcher.pattern_text_none, small]
    rw [Matcher.pattern_text_none, trimmed] at bare
    exact fun stroked => bare (Matcher.stroked_of_lower stroked)
  obtain ⟨search, text, matcher⟩ := Search.of_bare_text words
  refine ⟨_, text ▸ of_text_made rfl .exactly search, ?_⟩
  rw [String.toList_ofList, small] at matcher
  have name : (Aspect.name.texts card) = [String.ofList (plain s)] := by
    rw [Aspect.texts, single, ← named]
    rfl
  rw [matchesCard, test, Leaf.test]
  simp [name, Search.test, matcher, Matcher.test, eq_comm]

/-- A text has the same plain form in small letters, and its plain form is plain already, just when it
    has none of the capitals that keep their accent. Then, and only then, a card of one face is found
    under its whole name in small letters. -/
theorem letter_case_ignored (s : List Char) :
    (plain (plain s) = plain s ↔ ∀ c ∈ s, c ∉ accentedCapitals) ∧
    (plain (s.flatMap lowerChar) = plain s ↔ ∀ c ∈ s, c ∉ accentedCapitals) ∧
    ∀ (card : Card) (f : Face), card.faces = [f.completed] → f.name.toList = s → Text.trim s = s →
      Matcher.patternText? s = none →
        ∃ filter, ofText .name .exactly (String.ofList (s.flatMap lowerChar)) = .ok filter ∧
          (filter.matchesCard card = true ↔ ∀ c ∈ s, c ∉ accentedCapitals) := by
  refine ⟨Text.plain_again s, Text.plain_lowered s, fun card f single named trimmed bare => ?_⟩
  obtain ⟨filter, made, found⟩ := small_name_matches single named trimmed bare
  exact ⟨filter, made, found.trans (Text.plain_lowered s)⟩

-- The capital keeps its accent, the small letter is typed without.
theorem elan_unfound :
    let elan := Card.ofFaces "elan" ⟨"", "", "", ""⟩ .common [Face.ofName "Élan"]
    plain (plain "Élan".toList) ≠ plain "Élan".toList ∧
      plain ("Élan".toList.flatMap lowerChar) ≠ plain "Élan".toList ∧
      ∃ filter, ofText .name .exactly "élan" = .ok filter ∧ filter.matchesCard elan = false := by
  intro elan
  obtain ⟨again, lowered, names⟩ := letter_case_ignored "Élan".toList
  have accented : ¬ ∀ c ∈ "Élan".toList, c ∉ accentedCapitals := fun none =>
    none 'É' List.mem_cons_self (by decide)
  obtain ⟨filter, made, found⟩ := names elan (Face.ofName "Élan") rfl rfl (by decide) (by decide)
  refine ⟨fun same => accented (again.1 same), fun same => accented (lowered.1 same), filter, ?_, ?_⟩
  · rw [← made]
    exact congrArg (ofText .name .exactly) (by decide +kernel)
  · rw [Bool.eq_false_iff]
    exact fun holds => accented (found.1 holds)

end Filter

end Deckwright
