import Deckwright.Card.Face
import Deckwright.Proofs.Text.Replace
set_option autoImplicit false

namespace Deckwright

open Text (Blunt StandsClear Stands Word letterCount standsIn)

namespace Face

def hidden (old s : List Char) : List Char := if old = [] then s else Text.replaceAll old ownName s

def leftOf (old s : List Char) : List (List Char) := if old = [] then [s] else Text.splitAt old s

def shortOf (legendary : Bool) (name : List Char) : List Char := if legendary then shortName name else []

theorem own_name_apart : Text.isAlphanumeric '~' = false := by decide

theorem plain_rules_hidden (legendary : Bool) (name rules : List Char) :
    plainRulesOf legendary name rules = hidden (shortOf legendary name) (hidden name rules) := by
  by_cases none : name = []
  · subst none
    have short : shortName [] = [] := rfl
    cases legendary <;> simp [plainRulesOf, hidden, shortOf, short]
  · cases legendary with
    | false => simp [plainRulesOf, hidden, shortOf, none]
    | true => by_cases empty : shortName name = [] <;> simp [plainRulesOf, hidden, shortOf, none, empty]

section Hidden

variable {old s w : List Char}

theorem stands_hidden_iff (word : Word w) : Stands w (hidden old s) ↔ ∃ piece ∈ leftOf old s, Stands w piece := by
  by_cases none : old = []
  · simp [hidden, leftOf, none]
  · rw [hidden, leftOf, if_neg none, if_neg none, ← word.found_iff]
    exact Text.found_after_replace word own_name_apart old s

theorem hidden_beside (word : Word w) (clear : StandsClear old s) (stands : Stands w s) (other : ¬ Stands w old) :
    Stands w (hidden old s) := by
  by_cases none : old = []
  · rwa [hidden, if_pos none]
  · rw [hidden, if_neg none]
    exact Text.found_beside word own_name_apart none clear stands other

theorem hidden_letters (old s : List Char) : letterCount (hidden old s) ≤ letterCount s := by
  rw [hidden]
  split
  · exact Nat.le_refl _
  · exact Text.replace_letters own_name_apart old s

end Hidden

theorem trim_part (s : List Char) : Text.trim s <:+: s :=
  (Text.trim_end_prefix (Text.trimStart s)).isInfix.trans (List.dropWhile_suffix Text.isBlank).isInfix

theorem cut_at_part {word s front back : List Char} (cut : Text.cutAt word s = some (front, back)) :
    Text.trim front <:+: s :=
  (trim_part front).trans ⟨[], word ++ back, Text.cut_at_sound cut⟩

theorem short_name_part (name : List Char) : shortName name <:+: name := by
  unfold shortName
  split
  · exact cut_at_part ‹_›
  · split
    · exact List.infix_rfl
    · exact cut_at_part ‹_›
    · split
      · exact cut_at_part ‹_›
      · exact List.infix_rfl

theorem short_of_part (legendary : Bool) (name : List Char) : shortOf legendary name <:+: name := by
  cases legendary with
  | false => exact List.nil_infix
  | true => exact short_name_part name

theorem rules_found_iff {w : List Char} (word : Word w) (legendary : Bool) (name rules : List Char) :
    standsIn w (plainRulesOf legendary name rules) = true ↔
      ∃ piece ∈ leftOf (shortOf legendary name) (hidden name rules), Stands w piece := by
  rw [word.found_iff, plain_rules_hidden, stands_hidden_iff word]

theorem rules_kept_clear {w : List Char} {legendary : Bool} {name rules : List Char} (word : Word w)
    (clear : StandsClear name rules) (short : StandsClear (shortOf legendary name) (hidden name rules))
    (stands : Stands w rules) (other : ¬ Stands w name) (none : ¬ Stands w (shortOf legendary name)) :
    standsIn w (plainRulesOf legendary name rules) = true := by
  rw [word.found_iff, plain_rules_hidden]
  exact hidden_beside word short (hidden_beside word clear stands other) none

theorem rules_lost {w : List Char} {legendary : Bool} {name rules : List Char} (word : Word w)
    (few : letterCount (plainRulesOf legendary name rules) < w.length) :
    standsIn w (plainRulesOf legendary name rules) ≠ true := by
  intro found
  have most := word.short (word.found_iff.1 found)
  omega

def WordsKept (legendary : Bool) (name rules : List Char) : Prop :=
  ∀ w, Word w → Stands w rules → ¬ Stands w name → standsIn w (plainRulesOf legendary name rules) = true

theorem kept_of_blunt {legendary : Bool} {name : List Char} (blunt : Blunt name) (short : Blunt (shortOf legendary name))
    (rules : List Char) : WordsKept legendary name rules := by
  intro w word stands other
  have none : ¬ Stands w (shortOf legendary name) := fun inside =>
    other (short.stands_within (short_of_part legendary name) word inside)
  exact rules_kept_clear word (blunt.clear rules) (short.clear _) stands other none

theorem padded_plain {x : Char} {n : Nat} {old s : List Char} (digit : x = '0' ∨ x = '1')
    (padded : Text.Padded x n old s) (plain : ∀ d ∈ old, ∃ c, Text.plainChar c = [d]) : ∃ t, Text.plain t = s := by
  have settled : ∃ c, Text.plainChar c = [x] := by
    rcases digit with rfl | rfl
    · exact ⟨'0', by decide⟩
    · exact ⟨'1', by decide⟩
  have digits : ∀ d ∈ List.replicate n x, ∃ c, Text.plainChar c = [d] := fun d member =>
    List.eq_of_mem_replicate member ▸ settled
  rw [Text.plain_pieces]
  rcases padded with rfl | rfl
  · exact List.forall_mem_append.2 ⟨digits, plain⟩
  · exact List.forall_mem_append.2 ⟨plain, digits⟩

theorem longer_apart {w name : List Char} (word : Word w) (long : name.length < w.length) : ¬ Stands w name := by
  intro stands
  have most := word.short stands
  have all : letterCount name ≤ name.length := List.countP_le_length
  omega

theorem blunt_of_kept {legendary : Bool} {name : List Char} (plain : ∃ t, Text.plain t = name)
    (kept : ∀ rules, (∃ t, Text.plain t = rules) → WordsKept legendary name rules) :
    Blunt name ∧ Blunt (shortOf legendary name) := by
  have settled := (Text.plain_pieces name).1 plain
  have part := short_of_part legendary name
  have some {old : List Char} (ragged : ¬ Blunt old) : old ≠ [] := by
    rintro rfl
    exact ragged ⟨by simp [Text.Open], by simp [Text.Open]⟩
  have blunt : Blunt name := by
    by_contra ragged
    obtain ⟨x, s, w, digit, padded, word, stands, long, few⟩ := Text.damage own_name_apart ragged name.length
    have found := kept s (padded_plain digit padded settled) w word stands (longer_apart word long)
    have least : letterCount (plainRulesOf legendary name s) ≤ letterCount (hidden name s) := by
      rw [plain_rules_hidden]
      exact hidden_letters _ _
    rw [hidden, if_neg (some ragged)] at least
    exact rules_lost word (Nat.lt_of_le_of_lt least few) found
  refine ⟨blunt, ?_⟩
  by_contra ragged
  obtain ⟨x, s, w, digit, padded, word, stands, long, few⟩ := Text.damage own_name_apart ragged name.length
  have letter : Text.isAlphanumeric x = true := by rcases digit with rfl | rfl <;> decide
  have absent := Text.blunt_absent letter blunt part ragged padded
  have within : ∀ d ∈ shortOf legendary name, ∃ c, Text.plainChar c = [d] := fun d member =>
    settled d (part.subset member)
  have found := kept s (padded_plain digit padded within) w word stands (longer_apart word long)
  refine rules_lost word (Nat.lt_of_le_of_lt ?_ few) found
  have whole : hidden name s = s := by
    rw [hidden]
    split
    · rfl
    · exact Text.replace_absent absent
  rw [plain_rules_hidden, whole, hidden, if_neg (some ragged)]
  exact Nat.le_refl _

/-- A word of the rules is found just where it stands between the places where the name, and
    then its short form, were replaced. It is found when neither runs on into a word at any of
    its places and it is a word of neither. For all rules all words beside those of the name
    are found only when name and short form begin and end in no letter or digit. -/
theorem words_beside_own_name (f : Face) :
    let name := Text.plain f.name.toList
    let rules := Text.plain f.rules.toList
    let short := shortOf f.isLegendary name
    (∀ w, Word w → (standsIn w f.completed.plainRules.toList = true ↔
      ∃ piece ∈ leftOf short (hidden name rules), Stands w piece)) ∧
    (StandsClear name rules → StandsClear short (hidden name rules) → ∀ w, Word w → Stands w rules → ¬ Stands w name →
      ¬ Stands w short → standsIn w f.completed.plainRules.toList = true) ∧
    ((∀ text : String, ∀ w, Word w → Stands w (Text.plain text.toList) → ¬ Stands w name →
      standsIn w { f with rules := text }.completed.plainRules.toList = true) ↔ Blunt name ∧ Blunt short) := by
  intro name rules short
  have completed (text : String) : { f with rules := text }.completed.plainRules.toList =
      plainRulesOf f.isLegendary name (Text.plain text.toList) := by
    rw [completed]
    exact String.toList_ofList
  refine ⟨fun w word => ?_, fun clear shortClear w word stands other none => ?_, ?_⟩
  · rw [completed f.rules]
    exact rules_found_iff word f.isLegendary name rules
  · rw [completed f.rules]
    exact rules_kept_clear word clear shortClear stands other none
  · constructor
    · intro kept
      refine blunt_of_kept ⟨f.name.toList, rfl⟩ fun rules ⟨text, same⟩ w word stands other => ?_
      have found := kept (String.ofList text) w word (by rwa [String.toList_ofList, same]) other
      rwa [completed, String.toList_ofList, same] at found
    · rintro ⟨blunt, shortBlunt⟩ text w word stands other
      rw [completed]
      exact kept_of_blunt blunt shortBlunt _ w word stands other

theorem isamaru_keeps_ith_loses :
    let legend (name rules : String) : Face :=
      { Face.ofName name with supertypes := .ofList ["Legendary"], rules := rules }
    let isamaru := legend "Isamaru, Hound of Konda" "Isamaru attacks each combat if able."
    let ith := legend "Ith, High Arcanist" "Exile it with four time counters on it."
    standsIn "attacks".toList isamaru.completed.plainRules.toList = true ∧
      Stands "with".toList (Text.plain ith.rules.toList) ∧ ¬ Stands "with".toList (Text.plain ith.name.toList) ∧
      standsIn "with".toList ith.completed.plainRules.toList = false := by
  intro legend isamaru ith
  have attacks : Word "attacks".toList := .of_all (by decide) (by decide)
  have with_ : Word "with".toList := .of_all (by decide) (by decide)
  refine ⟨?_, with_.found_iff.1 (by decide +kernel), ?_, by decide +kernel⟩
  · refine (words_beside_own_name isamaru).2.1 (by decide +kernel) (by decide +kernel) _ attacks ?_ ?_ ?_
    · exact attacks.found_iff.1 (by decide +kernel)
    · rw [← attacks.found_iff]
      decide +kernel
    · rw [← attacks.found_iff]
      decide +kernel
  · rw [← with_.found_iff]
    decide +kernel

end Face

end Deckwright
