import Deckwright.Proofs.Text.Blank
import Deckwright.Proofs.Text.Plain
import Deckwright.Text.Search
set_option autoImplicit false

namespace Deckwright.Text

def Open (side : Option Char) : Prop := ∀ c ∈ side, isAlphanumeric c = false

/-- The word occurs in the text with no letter or digit on either side. -/
def Stands (word s : List Char) : Prop :=
  ∃ front back, s = front ++ word ++ back ∧ Open front.getLast? ∧ Open back.head?

-- An occurrence of the word hides a second one that begins inside it.
def Hides (word : List Char) : Prop :=
  ∃ front back, word = front ++ back ∧ front ≠ [] ∧ back ≠ [] ∧ back <+: word ∧ Open front.getLast?

theorem open_iff (side : Option Char) : Open side ↔ side.any isAlphanumeric = false := by
  cases side <;> simp [Open]

theorem open_head (s : List Char) : Open s.head? ↔ startsAlphanumeric s = false := by
  cases s <;> simp [Open, startsAlphanumeric]

theorem after_some {word s rest : List Char} : after? word s = some rest ↔ word ++ rest = s := by
  induction word generalizing s with
  | nil => simp [after?, eq_comm]
  | cons w ws ih =>
    cases s with
    | nil => simp [after?]
    | cons c s =>
      by_cases same : w = c
      · simp [after?, same, ih]
      · simp [after?, same]

theorem occurs_iff {word s : List Char} : occurs word s = true ↔ word <:+: s := by
  induction s with
  | nil => rw [occurs, List.isEmpty_iff, List.infix_nil]
  | cons c s ih =>
    have here : (after? word (c :: s)).isSome = true ↔ word <+: c :: s := by
      rw [Option.isSome_iff_exists]
      exact exists_congr fun rest => after_some
    rw [occurs, Bool.or_eq_true, ih, here, List.infix_cons_iff]

theorem last_behind (before : Option Char) (c : Char) (mid : List Char) :
    (c :: mid).getLast?.or before = mid.getLast?.or (some c) := by
  rw [List.getLast?_cons]
  cases mid.getLast? <;> rfl

theorem bounded_sound {word s : List Char} {before : Option Char} {skip : Nat}
    (found : boundedFrom word before skip s = true) :
    ∃ mid back, s = mid ++ word ++ back ∧ skip ≤ mid.length ∧ Open (mid.getLast?.or before) ∧ Open back.head? := by
  induction s generalizing before skip with
  | nil => cases skip <;> cases found
  | cons c s ih =>
    have later {skip before'} (found : boundedFrom word (some c) skip s = true) :
        ∃ mid back, c :: s = mid ++ word ++ back ∧ skip + 1 ≤ mid.length ∧
          Open (mid.getLast?.or before') ∧ Open back.head? := by
      obtain ⟨mid, back, split, passed, left, right⟩ := ih found
      exact ⟨c :: mid, back, by rw [split]; rfl, by simpa using passed, by rwa [last_behind], right⟩
    cases skip with
    | succ skip => exact later found
    | zero =>
      rw [boundedFrom] at found
      cases here : after? word (c :: s) with
      | none =>
        rw [here] at found
        obtain ⟨mid, back, split, _, left, right⟩ := later found
        exact ⟨mid, back, split, Nat.zero_le _, left, right⟩
      | some rest =>
        rw [here] at found
        rcases Bool.or_eq_true_iff.1 found with bounded | hidden
        · simp only [Bool.and_eq_true, Bool.not_eq_true'] at bounded
          exact ⟨[], rest, (after_some.1 here).symm, Nat.zero_le _, (open_iff before).2 bounded.1,
            (open_head rest).2 bounded.2⟩
        · obtain ⟨mid, back, split, _, left, right⟩ := later hidden
          exact ⟨mid, back, split, Nat.zero_le _, left, right⟩

theorem apart_of_not_hides {word rest mid back : List Char} (apart : ¬ Hides word) (some : mid ≠ [])
    (both : word ++ rest = mid ++ word ++ back) (left : Open mid.getLast?) : word.length ≤ mid.length := by
  refine Nat.le_of_not_lt fun short => ?_
  rw [List.append_assoc] at both
  obtain ⟨tail, cut⟩ := List.prefix_of_prefix_length_le (List.prefix_append _ _) ⟨rest, both⟩ (Nat.le_of_lt short)
  have behind : tail ++ rest = word ++ back := by
    rw [← cut, List.append_assoc] at both
    have same := List.append_cancel_left both
    rw [cut] at same
    exact same
  have shorter : tail.length ≤ word.length := by
    rw [← cut, List.length_append]
    omega
  refine apart ⟨mid, tail, cut.symm, some, ?_, ?_, left⟩
  · rintro rfl
    rw [← cut, List.append_nil] at short
    exact Nat.lt_irrefl _ short
  · exact List.prefix_of_prefix_length_le ⟨rest, behind⟩ (List.prefix_append _ _) shorter

theorem bounded_complete {word s mid back : List Char} {before : Option Char} {skip : Nat} (some : word ≠ [])
    (clear : ∀ gap rest, gap ≠ [] → gap <:+ mid → word ++ rest = gap ++ word ++ back → word.length ≤ gap.length)
    (whole : s = mid ++ word ++ back) (passed : skip ≤ mid.length) (left : Open (mid.getLast?.or before))
    (right : Open back.head?) : boundedFrom word before skip s = true := by
  induction s generalizing before skip mid with
  | nil => simp [some] at whole
  | cons c s ih =>
    cases mid with
    | nil =>
      obtain rfl : skip = 0 := by simpa using passed
      have here : after? word (c :: s) = .some back := after_some.2 whole.symm
      rw [boundedFrom, here]
      simp [(open_iff before).1 left, (open_head back).1 right]
    | cons d mid =>
      obtain ⟨rfl, rest⟩ := List.cons.inj whole
      rw [last_behind] at left
      have inner := fun gap ending begun ends => clear gap ending begun (List.IsSuffix.trans ends (List.suffix_cons c mid))
      cases skip with
      | succ skip => exact ih inner rest (Nat.le_of_succ_le_succ passed) left
      | zero =>
        rw [boundedFrom]
        cases here : after? word (c :: s) with
        | none => exact ih inner rest (Nat.zero_le _) left
        | some ending =>
          have both : word ++ ending = c :: mid ++ word ++ back := (after_some.1 here).trans whole
          have long := clear (c :: mid) ending (List.cons_ne_nil c mid) (List.suffix_refl _) both
          rw [List.length_cons] at long
          exact Bool.or_eq_true_iff.2 (.inr (ih inner rest (by omega) left))

theorem stands_sound {word s : List Char} (found : standsIn word s = true) : Stands word s := by
  obtain ⟨front, back, split, _, left, right⟩ := bounded_sound found
  rw [Option.or_none] at left
  exact ⟨front, back, split, left, right⟩

theorem stands_complete {word s : List Char} (some : word ≠ []) (apart : ¬ Hides word) (stands : Stands word s) :
    standsIn word s = true := by
  obtain ⟨front, back, split, left, right⟩ := stands
  refine bounded_complete some (fun gap rest begun ends both => ?_) split (Nat.zero_le _) (by rwa [Option.or_none]) right
  obtain ⟨early, rfl⟩ := ends
  rw [List.getLast?_append, Option.or_of_isSome (by simpa using begun)] at left
  exact apart_of_not_hides apart begun both left

theorem stands_hidden {word front : List Char} {x : Char} (spoils : isAlphanumeric x = true)
    (other : word.head? ≠ some x) (short : front.length < word.length) (again : word <+: front ++ word) :
    standsIn word (x :: (front ++ word)) = false := by
  obtain ⟨rest, both⟩ := again
  cases word with
  | nil => simp at short
  | cons w ws =>
    have apart : w ≠ x := fun same => other (by rw [same]; rfl)
    have first : standsIn (w :: ws) (x :: (front ++ w :: ws)) =
        boundedFrom (w :: ws) (some x) 0 (front ++ w :: ws) := by
      rw [standsIn, boundedFrom, after?, if_neg apart]
    -- x spoils the first occurrence, and that hides the second.
    rw [first, ← both, List.cons_append, Bool.eq_false_iff]
    intro found
    have here : after? (w :: ws) (w :: (ws ++ rest)) = some rest := after_some.2 rfl
    rw [boundedFrom, here] at found
    simp only [Option.any_some, spoils, Bool.not_true, Bool.false_and, Bool.false_or] at found
    obtain ⟨mid, back, split, passed, _, _⟩ := bounded_sound found
    have total := congrArg List.length both
    have left := congrArg List.length split
    simp only [List.length_append, List.length_cons] at total left passed short
    omega

theorem hides_plain {word : List Char} (hides : Hides word) (sought : ∃ t, plain t = word) :
    ∃ t, Stands word (plain t) ∧ standsIn word (plain t) = false := by
  obtain ⟨front, back, split, some, rest, again, left⟩ := hides
  have other : ∃ x, isAlphanumeric x = true ∧ plainChar x = [x] ∧ word.head? ≠ .some x := by
    by_cases zero : word.head? = .some '0'
    · exact ⟨'1', by decide, by decide, by rw [zero]; decide⟩
    · exact ⟨'0', by decide, by decide, zero⟩
  obtain ⟨x, spoils, settled, apart⟩ := other
  have pieces := (plain_pieces word).1 sought
  have field : ∀ d ∈ x :: (front ++ word), ∃ c, plainChar c = [d] := by
    refine List.forall_mem_cons.2 ⟨⟨x, settled⟩, fun d member => pieces d ?_⟩
    rcases List.mem_append.1 member with early | late
    · rw [split]
      exact List.mem_append_left back early
    · exact late
  obtain ⟨t, same⟩ := (plain_pieces _).2 field
  have short : front.length < word.length := by
    rw [split, List.length_append]
    exact Nat.lt_add_of_pos_right (List.length_pos_iff.2 rest)
  have twice : word <+: front ++ word := by
    conv => lhs; rw [split]
    exact (List.prefix_append_right_inj front).2 again
  have last : (x :: front).getLast? = front.getLast? := by
    have behind := last_behind none x front
    rw [List.getLast?_eq_some_getLast some] at behind ⊢
    rwa [Option.or_none, Option.some_or] at behind
  refine ⟨t, ?_, ?_⟩
  · refine ⟨x :: front, [], ?_, last ▸ left, by simp [Open]⟩
    rw [same, List.append_nil]
    rfl
  · rw [same]
    exact stands_hidden spoils apart short twice

section Terms

def TermState.held : TermState → List Char
  | .between => []
  | .word reversed => reversed
  | .quoted reversed => reversed

theorem trim_subset (s : List Char) : trim s ⊆ s := by
  have front := trim_end_prefix (trimStart s)
  exact fun _ member => (List.dropWhile_suffix isBlank).subset (front.subset member)

def Parts (terms : List (List Char)) (s : List Char) : Prop := ∀ w ∈ terms, w ≠ [] ∧ w ⊆ s

theorem parts_mono {terms : List (List Char)} {s t : List Char} (parts : Parts terms s) (within : s ⊆ t) :
    Parts terms t :=
  fun w member => ⟨(parts w member).1, fun _ inside => within ((parts w member).2 inside)⟩

theorem parts_append {terms more : List (List Char)} {s : List Char} (front : Parts terms s) (back : Parts more s) :
    Parts (terms ++ more) s :=
  fun w member => (List.mem_append.1 member).elim (front w) (back w)

theorem parts_word {reversed : List Char} (some : reversed ≠ []) : Parts [reversed.reverse] reversed := by
  intro w member
  rw [List.mem_singleton.1 member]
  exact ⟨List.reverse_ne_nil_iff.2 some, fun _ inside => List.mem_reverse.1 inside⟩

theorem parts_quoted (reversed : List Char) : Parts (quotedTerm reversed) reversed := by
  intro w member
  rw [quotedTerm] at member
  split at member
  · cases member
  · rename_i some
    obtain rfl := List.mem_singleton.1 member
    exact ⟨by simpa using some, fun c inside => List.mem_reverse.1 (trim_subset _ inside)⟩

theorem terms_from_parts (state : TermState) (begun : state ≠ .word []) (s : List Char) :
    Parts (termsFrom state s) (state.held ++ s) := by
  induction s generalizing state with
  | nil =>
    rw [List.append_nil]
    cases state with
    | between => simp [termsFrom, Parts]
    | word reversed => exact parts_word fun empty => begun (by rw [empty])
    | quoted reversed => exact parts_quoted reversed
  | cons c s ih =>
    have between : Parts (termsFrom .between s) (state.held ++ c :: s) :=
      parts_mono (ih .between (by simp)) (by simp [TermState.held])
    cases state with
    | between =>
      rw [termsFrom]
      split
      · exact between
      · split
        · exact parts_mono (ih (.quoted []) (by simp)) (by simp [TermState.held])
        · exact ih (.word [c]) (by simp)
    | word reversed =>
      rw [termsFrom]
      split
      · have here : Parts [reversed.reverse] ((TermState.word reversed).held ++ c :: s) :=
          parts_mono (parts_word fun empty => begun (by rw [empty])) (by simp [TermState.held])
        exact parts_append here between
      · exact parts_mono (ih (.word (c :: reversed)) (by simp)) (by simp [TermState.held])
    | quoted reversed =>
      rw [termsFrom]
      split
      · exact parts_append (parts_mono (parts_quoted reversed) (by simp [TermState.held])) between
      · exact parts_mono (ih (.quoted (c :: reversed)) (by simp)) (by simp [TermState.held])

theorem terms_parts (s : List Char) : Parts (terms s) s := terms_from_parts .between (by simp) s

theorem term_plain {t w : List Char} (member : w ∈ terms (plain t)) : w ≠ [] ∧ ∃ s, plain s = w := by
  obtain ⟨some, within⟩ := terms_parts (plain t) w member
  exact ⟨some, (plain_pieces w).2 fun d inside => (plain_pieces (plain t)).1 ⟨t, rfl⟩ d (within inside)⟩

end Terms

theorem cut_at_sound {word s front back : List Char} (cut : cutAt word s = some (front, back)) :
    front ++ (word ++ back) = s := by
  induction s generalizing front with
  | nil =>
    rw [cutAt] at cut
    split at cut
    · rename_i empty
      cases cut
      simpa using empty
    · cases cut
  | cons c s ih =>
    rw [cutAt] at cut
    split at cut
    · rename_i rest here
      cases cut
      rw [List.nil_append]
      exact after_some.1 here
    · obtain ⟨parts, later, same⟩ := Option.map_eq_some_iff.1 cut
      cases same
      exact congrArg (c :: ·) (ih later)

theorem cut_at_sign {c : Char} {s : List Char} (absent : c ∉ s) (t : List Char) :
    cutAt [c] (s ++ c :: t) = some (s, t) := by
  induction s with
  | nil => simp [cutAt, after?]
  | cons d rest ih =>
    simp only [List.mem_cons, not_or] at absent
    rw [List.cons_append, cutAt, after?, if_neg absent.1, ih absent.2]
    rfl

section Pieces

variable {seps : List Char}

theorem split_any_piece {s : List Char} (free : ∀ c ∈ s, c ∉ seps) : splitOnAny seps s = [s] := by
  induction s with
  | nil => rfl
  | cons c s ih =>
    obtain ⟨here, later⟩ := List.forall_mem_cons.1 free
    rw [splitOnAny, if_neg (by simpa using here), ih later]

theorem split_any_next {s : List Char} (free : ∀ c ∈ s, c ∉ seps) {sep : Char} (member : sep ∈ seps) (t : List Char) :
    splitOnAny seps (s ++ sep :: t) = s :: splitOnAny seps t := by
  induction s with
  | nil => rw [List.nil_append, splitOnAny, if_pos (by simpa using member)]
  | cons c s ih =>
    obtain ⟨here, later⟩ := List.forall_mem_cons.1 free
    rw [List.cons_append, splitOnAny, if_neg (by simpa using here), ih later]

theorem mem_split_on {sep c : Char} {s : List Char} (member : c ∈ s) (other : c ≠ sep) :
    ∃ piece ∈ splitOn sep s, c ∈ piece := by
  induction s with
  | nil => cases member
  | cons d s ih =>
    rw [splitOn]
    by_cases same : d = sep
    · obtain ⟨piece, inside, found⟩ := ih ((List.mem_cons.1 member).resolve_left fun first => other (first.trans same))
      rw [if_pos same]
      exact ⟨piece, List.mem_cons_of_mem [] inside, found⟩
    · rw [if_neg same]
      cases pieces : splitOn sep s with
      | nil =>
        rw [pieces] at ih
        rcases List.mem_cons.1 member with rfl | later
        · exact ⟨[c], List.mem_cons_self, List.mem_cons_self⟩
        · obtain ⟨_, inside, _⟩ := ih later
          cases inside
      | cons piece rest =>
        rw [pieces] at ih
        rcases List.mem_cons.1 member with rfl | later
        · exact ⟨c :: piece, List.mem_cons_self, List.mem_cons_self⟩
        · obtain ⟨held, inside, found⟩ := ih later
          rcases List.mem_cons.1 inside with rfl | behind
          · exact ⟨d :: held, List.mem_cons_self, List.mem_cons_of_mem d found⟩
          · exact ⟨held, List.mem_cons_of_mem _ behind, found⟩

theorem split_on_piece {sep : Char} {s : List Char} (free : sep ∉ s) : splitOn sep s = [s] := by
  induction s with
  | nil => rfl
  | cons c s ih =>
    obtain ⟨here, later⟩ : sep ≠ c ∧ sep ∉ s := by simpa using free
    rw [splitOn, if_neg (Ne.symm here), ih later]

end Pieces

end Deckwright.Text
