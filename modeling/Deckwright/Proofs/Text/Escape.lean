import Deckwright.Text.Escape
import Deckwright.Text.Search
set_option autoImplicit false

namespace Deckwright.Text

def Unbroken (s : List Char) : Prop := ∀ c ∈ s, c ≠ '\n' ∧ c ≠ '\r' ∧ c ≠ '\t'

/-- Text in which each of the stops has a backslash in front, and no backslash is left at
    the end. -/
inductive Sealed (stops : List Char) : List Char → Prop where
  | nil : Sealed stops []
  | plain {c : Char} {s : List Char} (other : c ≠ '\\') (passed : c ∉ stops) (rest : Sealed stops s) :
    Sealed stops (c :: s)
  | pair {s : List Char} (c : Char) (rest : Sealed stops s) : Sealed stops ('\\' :: c :: s)

/-- A text is empty, ends in a lone backslash, or begins with a pair or another character. -/
@[elab_as_elim]
theorem escape_induction {motive : List Char → Prop} (nil : motive []) (slash : motive ['\\'])
    (pair : ∀ c s, motive s → motive ('\\' :: c :: s)) (sign : ∀ c s, c ≠ '\\' → motive s → motive (c :: s)) :
    ∀ s, motive s
  | [] => nil
  | [c] => if same : c = '\\' then same ▸ slash else sign c [] same nil
  | c :: d :: s => by
    by_cases same : c = '\\'
    · subst same
      exact pair d s (escape_induction nil slash pair sign s)
    · exact sign c (d :: s) same (escape_induction nil slash pair sign (d :: s))

namespace Sealed

variable {stops : List Char}

theorem append {s t : List Char} (left : Sealed stops s) (right : Sealed stops t) : Sealed stops (s ++ t) := by
  induction left with
  | nil => exact right
  | plain other passed _ ih => exact .plain other passed ih
  | pair c _ ih => exact .pair c ih

theorem of_plain {s : List Char} (other : '\\' ∉ s) (passed : ∀ c ∈ s, c ∉ stops) : Sealed stops s := by
  induction s with
  | nil => exact .nil
  | cons c rest ih =>
    refine .plain (fun same => other (by simp [same])) (passed c (by simp)) (ih ?_ ?_)
    · exact fun member => other (List.mem_cons_of_mem c member)
    · exact fun d member => passed d (List.mem_cons_of_mem c member)

end Sealed

theorem unbroken_nil : Unbroken [] := by simp [Unbroken]

theorem unbroken_cons {c : Char} {s : List Char} :
    Unbroken (c :: s) ↔ (c ≠ '\n' ∧ c ≠ '\r' ∧ c ≠ '\t') ∧ Unbroken s := by
  simp [Unbroken]

theorem unbroken_append {s t : List Char} : Unbroken (s ++ t) ↔ Unbroken s ∧ Unbroken t := by
  constructor
  · exact fun whole => ⟨fun c member => whole c (by simp [member]), fun c member => whole c (by simp [member])⟩
  · rintro ⟨left, right⟩ c member
    exact (List.mem_append.1 member).elim (left c) (right c)

theorem join_keeps {P : List Char → Prop} {sep : List Char} {pieces : List (List Char)} (none : P [])
    (append : ∀ {s t : List Char}, P s → P t → P (s ++ t)) (between : P sep) (all : ∀ s ∈ pieces, P s) :
    P (joinWith sep pieces) := by
  induction pieces with
  | nil => exact none
  | cons s rest ih =>
    have first := all s (by simp)
    have later := ih fun t member => all t (List.mem_cons_of_mem s member)
    cases rest with
    | nil => exact first
    | cons t rest => exact append (append first between) later

theorem join_sealed {stops : List Char} {sep : Char} {pieces : List (List Char)} (other : sep ≠ '\\') (passed : sep ∉ stops)
    (closed : ∀ s ∈ pieces, Sealed stops s) : Sealed stops (joinWith [sep] pieces) :=
  join_keeps .nil Sealed.append (.plain other passed .nil) closed

/-- What a choice of special characters has to be for escaped text to read back. -/
structure Reversible (specials : List Char) : Prop where
  slash : '\\' ∈ specials
  plain : ∀ c ∈ specials, unescapeChar c = c

theorem bracket_reversible : Reversible bracketSpecials := ⟨by decide, by simp [bracketSpecials, unescapeChar]⟩

theorem element_reversible : Reversible elementSpecials := ⟨by decide, by simp [elementSpecials, unescapeChar]⟩

theorem line_reversible : Reversible lineSpecials := ⟨by decide, by simp [lineSpecials, unescapeChar]⟩

theorem id_reversible : Reversible idSpecials := ⟨by decide, by simp [idSpecials, unescapeChar]⟩

section Escape

variable {specials : List Char}

-- An escaped character is a pair or the character as it is. All below depends on this only.
theorem escape_char_cases (reversible : Reversible specials) (c : Char) :
    (∃ d, escapeChar specials c = ['\\', d] ∧ unescapeChar d = c ∧ Unbroken [d]) ∨
      (escapeChar specials c = [c] ∧ c ∉ specials ∧ Unbroken [c]) := by
  unfold escapeChar
  by_cases feed : c = '\n'
  · exact .inl ⟨'n', by simp [feed], by simp [feed, unescapeChar], by simp [Unbroken]⟩
  by_cases turn : c = '\r'
  · exact .inl ⟨'r', by simp [turn], by simp [turn, unescapeChar], by simp [Unbroken]⟩
  by_cases tab : c = '\t'
  · exact .inl ⟨'t', by simp [tab], by simp [tab, unescapeChar], by simp [Unbroken]⟩
  have unbroken : Unbroken [c] := by simp [Unbroken, feed, turn, tab]
  by_cases special : c ∈ specials
  · exact .inl ⟨c, by simp [feed, turn, tab, special], reversible.plain c special, unbroken⟩
  · exact .inr ⟨by simp [feed, turn, tab, special], special, unbroken⟩

theorem escape_cons (c : Char) (s : List Char) : escape specials (c :: s) = escapeChar specials c ++ escape specials s := by
  simp [escape]

theorem unescape_escape_append (reversible : Reversible specials) (s t : List Char) :
    unescape (escape specials s ++ t) = s ++ unescape t := by
  induction s with
  | nil => rfl
  | cons c rest ih =>
    rw [escape_cons, List.append_assoc]
    rcases escape_char_cases reversible c with ⟨d, pair, named, _⟩ | ⟨single, other, _⟩
    · rw [pair, ← named]
      simp [unescape, ih]
    · have plain : c ≠ '\\' := fun same => other (same ▸ reversible.slash)
      rw [single, List.singleton_append, List.cons_append, ← ih]
      cases escape specials rest ++ t with
      | nil => rfl
      | cons d s => simp [unescape, plain]

theorem unescape_escape (reversible : Reversible specials) (s : List Char) :
    unescape (escape specials s) = s := by
  simpa [unescape] using unescape_escape_append reversible s []

theorem escape_unbroken (reversible : Reversible specials) (s : List Char) : Unbroken (escape specials s) := by
  induction s with
  | nil => exact unbroken_nil
  | cons c rest ih =>
    rw [escape_cons, unbroken_append]
    refine ⟨?_, ih⟩
    rcases escape_char_cases reversible c with ⟨d, pair, _, unbroken⟩ | ⟨single, _, unbroken⟩
    · rw [pair, unbroken_cons]
      exact ⟨by decide, unbroken⟩
    · rw [single]
      exact unbroken

theorem escape_sealed {stops : List Char} (reversible : Reversible specials) (within : ∀ c ∈ stops, c ∈ specials)
    (s : List Char) : Sealed stops (escape specials s) := by
  induction s with
  | nil => exact .nil
  | cons c rest ih =>
    rw [escape_cons]
    refine .append ?_ ih
    rcases escape_char_cases reversible c with ⟨d, pair, _, _⟩ | ⟨single, other, _⟩
    · rw [pair]
      exact .pair d .nil
    · rw [single]
      exact .plain (fun same => other (same ▸ reversible.slash)) (fun stop => other (within c stop)) .nil

end Escape

section Scan

variable {stops : List Char} {stop : Char}

theorem cut_slash (stop : Char) : cutUnescaped stop ['\\'] = none := rfl

theorem cut_pair (stop c : Char) (s : List Char) :
    cutUnescaped stop ('\\' :: c :: s) = (cutUnescaped stop s).map fun parts => ('\\' :: c :: parts.1, parts.2) := rfl

theorem cut_here (other : stop ≠ '\\') (s : List Char) : cutUnescaped stop (stop :: s) = some ([], s) := by
  cases s <;> simp [cutUnescaped, other]

theorem cut_sign {c : Char} (other : c ≠ '\\') (away : c ≠ stop) (s : List Char) :
    cutUnescaped stop (c :: s) = (cutUnescaped stop s).map fun parts => (c :: parts.1, parts.2) := by
  cases s <;> simp [cutUnescaped, other, away]

theorem split_pair (sep c : Char) (s : List Char) :
    splitUnescaped sep ('\\' :: c :: s) = consToFirst ['\\', c] (splitUnescaped sep s) := rfl

theorem split_here (other : stop ≠ '\\') (s : List Char) :
    splitUnescaped stop (stop :: s) = [] :: splitUnescaped stop s := by
  cases s <;> simp [splitUnescaped, other]

theorem split_sign {c : Char} (other : c ≠ '\\') (away : c ≠ stop) (s : List Char) :
    splitUnescaped stop (c :: s) = consToFirst [c] (splitUnescaped stop s) := by
  cases s <;> simp [splitUnescaped, other, away, consToFirst]

theorem cut_sound {s front back : List Char} (found : cutUnescaped stop s = some (front, back)) :
    s = front ++ stop :: back := by
  induction s using escape_induction generalizing front with
  | nil => cases found
  | slash =>
    rw [cut_slash] at found
    cases found
  | pair c s ih =>
    rw [cut_pair] at found
    obtain ⟨parts, cut, same⟩ := Option.map_eq_some_iff.1 found
    cases same
    rw [ih cut]
    rfl
  | sign c s other ih =>
    by_cases here : c = stop
    · subst here
      rw [cut_here other] at found
      cases found
      rfl
    · rw [cut_sign other here] at found
      obtain ⟨parts, cut, same⟩ := Option.map_eq_some_iff.1 found
      cases same
      rw [ih cut]
      rfl

theorem cut_front {s front back : List Char} (found : cutUnescaped stop s = some (front, back)) : Sealed [stop] front := by
  induction s using escape_induction generalizing front with
  | nil => cases found
  | slash =>
    rw [cut_slash] at found
    cases found
  | pair c s ih =>
    rw [cut_pair] at found
    obtain ⟨parts, cut, same⟩ := Option.map_eq_some_iff.1 found
    cases same
    exact .pair c (ih cut)
  | sign c s other ih =>
    by_cases here : c = stop
    · subst here
      rw [cut_here other] at found
      cases found
      exact .nil
    · rw [cut_sign other here] at found
      obtain ⟨parts, cut, same⟩ := Option.map_eq_some_iff.1 found
      cases same
      exact .plain other (by simpa using here) (ih cut)

theorem cut_sealed {s : List Char} (closed : Sealed stops s) (member : stop ∈ stops) (other : stop ≠ '\\')
    (t : List Char) : cutUnescaped stop (s ++ stop :: t) = some (s, t) := by
  induction closed with
  | nil => exact cut_here other t
  | @plain c _ plain passed _ ih =>
    have away : c ≠ stop := fun same => passed (same ▸ member)
    rw [List.cons_append, cut_sign plain away, ih]
    rfl
  | pair c _ ih =>
    rw [List.cons_append, List.cons_append, cut_pair, ih]
    rfl

theorem split_sealed {s : List Char} (closed : Sealed stops s) (member : stop ∈ stops) (other : stop ≠ '\\')
    (t : List Char) : splitUnescaped stop (s ++ stop :: t) = s :: splitUnescaped stop t := by
  induction closed with
  | nil => exact split_here other t
  | @plain c _ plain passed _ ih =>
    have away : c ≠ stop := fun same => passed (same ▸ member)
    rw [List.cons_append, split_sign plain away, ih]
    rfl
  | pair c _ ih =>
    rw [List.cons_append, List.cons_append, split_pair, ih]
    rfl

theorem split_sealed_last {s : List Char} (closed : Sealed stops s) (member : stop ∈ stops) :
    splitUnescaped stop s = [s] := by
  induction closed with
  | nil => rfl
  | @plain c _ plain passed _ ih =>
    have away : c ≠ stop := fun same => passed (same ▸ member)
    rw [split_sign plain away, ih]
    rfl
  | pair c _ ih =>
    rw [split_pair, ih]
    rfl

theorem split_join {pieces : List (List Char)} (closed : ∀ s ∈ pieces, Sealed stops s) (member : stop ∈ stops)
    (other : stop ≠ '\\') (some : pieces ≠ []) : splitUnescaped stop (joinWith [stop] pieces) = pieces := by
  induction pieces with
  | nil => exact absurd rfl some
  | cons s rest ih =>
    cases rest with
    | nil => exact split_sealed_last (closed s (by simp)) member
    | cons t rest =>
      rw [joinWith, List.append_assoc, List.singleton_append, split_sealed (closed s (by simp)) member other,
        ih (fun u inside => closed u (List.mem_cons_of_mem s inside)) (by simp)]
      simp

end Scan

theorem unescape_sign {c : Char} (other : c ≠ '\\') (s : List Char) : unescape (c :: s) = c :: unescape s := by
  cases s <;> simp [unescape, other]

theorem unescape_plain {s : List Char} (plain : '\\' ∉ s) : unescape s = s := by
  induction s with
  | nil => rfl
  | cons c rest ih =>
    simp only [List.mem_cons, not_or] at plain
    rw [unescape_sign (Ne.symm plain.1), ih plain.2]

structure Inline (s : List Char) : Prop where
  closed : Sealed ['<', '>'] s
  unbroken : Unbroken s

namespace Inline

theorem nil : Inline [] := ⟨.nil, unbroken_nil⟩

theorem append {s t : List Char} (left : Inline s) (right : Inline t) : Inline (s ++ t) :=
  ⟨left.closed.append right.closed, unbroken_append.2 ⟨left.unbroken, right.unbroken⟩⟩

theorem escape {specials : List Char} (reversible : Reversible specials) (within : ∀ c ∈ ['<', '>'], c ∈ specials)
    (s : List Char) : Inline (escape specials s) :=
  ⟨escape_sealed reversible within s, escape_unbroken reversible s⟩

theorem of_plain {s : List Char} (plain : ∀ c ∈ s, c ∉ ['\\', '<', '>', '\n', '\r', '\t']) : Inline s := by
  have each : ∀ c ∈ s, (c ≠ '\\' ∧ c ∉ ['<', '>']) ∧ c ≠ '\n' ∧ c ≠ '\r' ∧ c ≠ '\t' := by
    intro c member
    have other := plain c member
    simp only [List.mem_cons, List.not_mem_nil, or_false, not_or] at other ⊢
    exact ⟨⟨other.1, other.2.1, other.2.2.1⟩, other.2.2.2⟩
  refine ⟨.of_plain (fun slash => (each _ slash).1.1 rfl) fun c member => (each c member).1.2, ?_⟩
  exact fun c member => (each c member).2

theorem single {c : Char} (plain : c ∉ ['\\', '<', '>', '\n', '\r', '\t']) : Inline [c] :=
  of_plain fun _ member => List.mem_singleton.1 member ▸ plain

theorem cons {c : Char} {s : List Char} (plain : c ∉ ['\\', '<', '>', '\n', '\r', '\t']) (rest : Inline s) :
    Inline (c :: s) := (single plain).append rest

theorem join {sep : Char} {pieces : List (List Char)} (plain : sep ∉ ['\\', '<', '>', '\n', '\r', '\t'])
    (inline : ∀ s ∈ pieces, Inline s) : Inline (joinWith [sep] pieces) :=
  join_keeps nil append (single plain) inline

end Inline

end Deckwright.Text
