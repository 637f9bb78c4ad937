import Mathlib.Data.List.TakeWhile
import Deckwright.Text.Blank
set_option autoImplicit false

namespace Deckwright.Text

def Blank (s : List Char) : Prop := ∀ c ∈ s, isBlank c = true

structure Bare (s : List Char) : Prop where
  head : ∀ c ∈ s.head?, isBlank c = false
  last : ∀ c ∈ s.getLast?, isBlank c = false

theorem trim_start_head {s : List Char} (bare : ∀ c ∈ s.head?, isBlank c = false) : trimStart s = s := by
  cases s with
  | nil => rfl
  | cons c rest => simp [trimStart, bare c rfl]

theorem trim_end_last {s : List Char} (bare : ∀ c ∈ s.getLast?, isBlank c = false) : trimEnd s = s := by
  have reversed := trim_start_head (s := s.reverse) (by simpa using bare)
  unfold trimStart at reversed
  rw [trimEnd, reversed, List.reverse_reverse]

theorem bare_trim {s : List Char} (bare : Bare s) : trim s = s := by
  rw [trim, trim_start_head bare.head, trim_end_last bare.last]

theorem head_trim_start (s : List Char) : ∀ c ∈ (trimStart s).head?, isBlank c = false := by
  intro c first
  have stop := List.head?_dropWhile_not isBlank s
  rw [show (s.dropWhile isBlank).head? = some c from first] at stop
  exact stop

theorem last_trim_end (s : List Char) : ∀ c ∈ (trimEnd s).getLast?, isBlank c = false := by
  intro c last
  apply head_trim_start s.reverse c
  simpa [trimEnd, trimStart] using last

theorem trim_end_prefix (s : List Char) : trimEnd s <+: s := by
  rw [← List.reverse_suffix, trimEnd, List.reverse_reverse]
  exact List.dropWhile_suffix isBlank

theorem trim_end_split (s : List Char) : ∃ gap, Blank gap ∧ s = trimEnd s ++ gap := by
  refine ⟨(s.reverse.takeWhile isBlank).reverse, fun c member => ?_, ?_⟩
  · exact List.mem_takeWhile_imp (List.mem_reverse.1 member)
  · rw [trimEnd, ← List.reverse_append, List.takeWhile_append_dropWhile, List.reverse_reverse]

theorem trim_bare (s : List Char) : Bare (trim s) := by
  refine ⟨fun c first => head_trim_start s c ?_, last_trim_end (trimStart s)⟩
  obtain ⟨rest, split⟩ := trim_end_prefix (trimStart s)
  rw [← split, List.head?_append]
  rw [show (trimEnd (trimStart s)).head? = some c from first]
  rfl

theorem trim_of_cons {s : List Char} {c : Char} (blank : isBlank c = true) : trim (c :: s) = trim s := by
  simp [trim, trimStart, blank]

theorem bare_of_all {s : List Char} (all : ∀ c ∈ s, isBlank c = false) : Bare s :=
  ⟨fun c first => all c (List.mem_of_head? first), fun c last => all c (List.mem_of_getLast? last)⟩

theorem trim_blank {s : List Char} : trim s = [] ↔ Blank s := by
  have drop {t : List Char} : t.dropWhile isBlank = [] ↔ Blank t := List.dropWhile_eq_nil_iff
  rw [← drop]
  constructor
  · intro nothing
    cases rest : s.dropWhile isBlank with
    | nil => rfl
    | cons c t =>
      have sign := head_trim_start s c (by rw [trimStart, rest]; rfl)
      rw [trim, trimStart, rest, trimEnd, List.reverse_eq_nil_iff, drop] at nothing
      rw [nothing c (by simp)] at sign
      cases sign
  · intro nothing
    rw [trim, trimStart, nothing]
    rfl

theorem trim_split (s : List Char) : ∃ front back, Blank front ∧ Blank back ∧ s = front ++ (trim s ++ back) := by
  obtain ⟨back, behind, whole⟩ := trim_end_split (trimStart s)
  refine ⟨s.takeWhile isBlank, back, fun c member => List.mem_takeWhile_imp member, behind, ?_⟩
  rw [trim, ← whole, trimStart, List.takeWhile_append_dropWhile]

theorem mem_trim {s : List Char} {c : Char} (member : c ∈ s) (other : isBlank c = false) : c ∈ trim s := by
  obtain ⟨front, back, before, behind, split⟩ := trim_split s
  rw [split, List.mem_append, List.mem_append] at member
  rcases member with first | inside | last
  · exact absurd (before c first) (by simp [other])
  · exact inside
  · exact absurd (behind c last) (by simp [other])

theorem trim_blank_front {gap : List Char} (blank : Blank gap) (s : List Char) : trim (gap ++ s) = trim s := by
  rw [trim, trimStart, List.dropWhile_append_of_pos blank, trim, trimStart]

theorem trim_blank_back {gap : List Char} (blank : Blank gap) (s : List Char) : trim (s ++ gap) = trim s := by
  by_cases all : Blank s
  · have both : Blank (s ++ gap) := fun c member => (List.mem_append.1 member).elim (all c) (blank c)
    rw [trim_blank.2 all, trim_blank.2 both]
  · have some : (s.dropWhile isBlank).isEmpty = false := by
      rw [List.isEmpty_eq_false_iff]
      exact fun none => all (List.dropWhile_eq_nil_iff.1 none)
    have behind : ∀ c ∈ gap.reverse, isBlank c = true := fun c member => blank c (List.mem_reverse.1 member)
    rw [trim, trim, trimStart, trimStart, List.dropWhile_append, some, if_neg Bool.false_ne_true, trimEnd, trimEnd,
      List.reverse_append, List.dropWhile_append_of_pos behind]

theorem trimmed_bare {s : String} (bare : Bare s.toList) : trimmed s = s := by
  rw [trimmed, bare_trim bare, String.ofList_toList]

end Deckwright.Text
