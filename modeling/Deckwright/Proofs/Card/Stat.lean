import Deckwright.Card.Characteristic
import Deckwright.Proofs.Binary64.Sum
import Deckwright.Proofs.Text.Search
import Mathlib.Algebra.Ring.Int.Defs
set_option autoImplicit false

namespace Deckwright

namespace Stat

open Binary64 (Counts Tracks)

inductive Term where
  | number (digits : List Char) (some : digits ≠ []) (all : Text.Digits digits)
  | star
  | unknown

namespace Term

def text : Term → List Char
  | .number digits _ _ => digits
  | .star => ['*']
  | .unknown => ['X']

def amount : Term → Nat
  | .number digits _ _ => Binary64.ofDigits digits
  | .star | .unknown => 0

end Term

/-- A stat as it is printed: terms with a sign between each two, and one in front if it is a minus.
    A sign is told by whether it is a minus. -/
structure Printed where
  minus : Bool
  first : Term
  rest : List (Bool × Term)

namespace Printed

def signText (minus : Bool) : Char := if minus then '-' else '+'

def behind (rest : List (Bool × Term)) : List Char := rest.flatMap fun t => signText t.1 :: t.2.text

def text (p : Printed) : List Char := (if p.minus then ['-'] else []) ++ (p.first.text ++ behind p.rest)

def terms (p : Printed) : List (Bool × Term) := (p.minus, p.first) :: p.rest

def signed (t : Bool × Term) : Int := if t.1 then -(t.2.amount : Int) else t.2.amount

def sum (p : Printed) : Int := (p.terms.map signed).sum

def total (p : Printed) : Nat := (p.terms.map fun t => t.2.amount).sum

end Printed

section Terms

def Quiet (c : Char) : Prop := Text.isBlank c = false ∧ c ∉ ['+', '-'] ∧ c ≠ halfSign

theorem digit_quiet {c : Char} (digit : Text.isAsciiDigit c = true) : Quiet c := by
  have other (d : Char) : Text.isAsciiDigit d = false → c ≠ d := Text.digit_ne digit
  exact ⟨Text.digit_not_blank digit, by simp [other '+' (by decide), other '-' (by decide)], other _ (by decide)⟩

theorem term_quiet (t : Term) : ∀ c ∈ t.text, Quiet c := by
  cases t with
  | number digits _ all => exact fun c member => digit_quiet (all c member)
  | star => simp [Term.text, Quiet, halfSign]; decide
  | unknown => simp [Term.text, Quiet, halfSign]; decide

theorem term_some (t : Term) : t.text ≠ [] := by
  cases t with
  | number digits some _ => exact some
  | star => simp [Term.text]
  | unknown => simp [Term.text]

theorem add_term_tracks {x : Binary64} {n : Nat} (tracks : Tracks x n) (t : Term) :
    Tracks (addTerm x t.text) (n + t.amount) := by
  have bare : Text.trim t.text = t.text := Text.bare_trim (Text.bare_of_all fun c member => (term_quiet t c member).1)
  rw [addTerm, bare]
  cases t with
  | number digits some all =>
    rw [Term.text, Binary64.read_digits_alone some all, Binary64.decimal_whole]
    exact tracks.add (.of_whole _)
  | star => exact tracks
  | unknown => exact tracks

theorem terms_tracks {x : Binary64} {n : Nat} (tracks : Tracks x n) (ts : List (Bool × Term)) :
    Tracks ((ts.map fun t => t.2.text).foldl addTerm x) (n + (ts.map fun t => t.2.amount).sum) := by
  induction ts generalizing x n with
  | nil => exact tracks
  | cons t ts ih =>
    rw [List.map_cons, List.map_cons, List.foldl_cons, List.sum_cons, ← Nat.add_assoc]
    exact ih (add_term_tracks tracks t.2)

end Terms

namespace Printed

theorem split_behind (t : Term) (rest : List (Bool × Term)) :
    Text.splitOnAny ['+', '-'] (t.text ++ behind rest) = t.text :: rest.map fun u => u.2.text := by
  have free (t : Term) : ∀ c ∈ t.text, c ∉ ['+', '-'] := fun c member => (term_quiet t c member).2.1
  induction rest generalizing t with
  | nil => rw [behind, List.flatMap_nil, List.append_nil, Text.split_any_piece (free t), List.map_nil]
  | cons u rest ih =>
    have sign : signText u.1 ∈ ['+', '-'] := by cases u.1 <;> simp [signText]
    have next : behind (u :: rest) = signText u.1 :: (u.2.text ++ behind rest) := rfl
    rw [next, Text.split_any_next (free t) sign, ih, List.map_cons]

theorem halves_quiet {s : List Char} (free : ∀ c ∈ s, c ≠ halfSign) : spellHalves s = s := by
  induction s with
  | nil => rfl
  | cons c s ih =>
    obtain ⟨here, later⟩ := List.forall_mem_cons.1 free
    rw [spellHalves, List.flatMap_cons, if_neg here, ← spellHalves, ih later]
    rfl

theorem text_quiet (p : Printed) : ∀ c ∈ p.text, c ≠ halfSign ∧ Text.isBlank c = false := by
  have quiet (t : Term) : ∀ c ∈ t.text, c ≠ halfSign ∧ Text.isBlank c = false :=
    fun c member => ⟨(term_quiet t c member).2.2, (term_quiet t c member).1⟩
  intro c member
  rcases List.mem_append.1 member with minus | member
  · split at minus
    · rw [List.mem_singleton.1 minus]
      decide
    · cases minus
  · rcases List.mem_append.1 member with first | later
    · exact quiet _ c first
    · obtain ⟨t, _, here⟩ := List.mem_flatMap.1 later
      rcases List.mem_cons.1 here with rfl | here
      · cases t.1 <;> decide
      · exact quiet _ c here

theorem text_head (p : Printed) : (∃ s, p.text = '-' :: s) ↔ p.minus = true := by
  obtain ⟨d, s, first⟩ := List.exists_cons_of_ne_nil (term_some p.first)
  have sign := (term_quiet p.first d (by simp [first])).2.1
  cases minus : p.minus with
  | true => simp [text, minus]
  | false =>
    simp only [text, minus, first, Bool.false_eq_true, if_false, List.nil_append, List.cons_append, List.cons.injEq]
    simp only [List.mem_cons, not_or] at sign
    simp [sign.2.1]

theorem total_tracks (p : Printed) :
    Tracks ((Text.splitOnAny ['+', '-'] p.text).foldl addTerm Binary64.zero) p.total := by
  have all := terms_tracks Tracks.zero p.terms
  rw [Nat.zero_add, ← total] at all
  rw [text]
  cases p.minus with
  | true =>
    have front : Text.splitOnAny ['+', '-'] ('-' :: (p.first.text ++ behind p.rest)) =
        [] :: Text.splitOnAny ['+', '-'] (p.first.text ++ behind p.rest) :=
      Text.split_any_next (List.forall_mem_nil _) (by simp) _
    rw [if_pos rfl, List.singleton_append, front, split_behind]
    exact all
  | false =>
    rw [if_neg (by decide), List.nil_append, split_behind]
    exact all

theorem value_of_text (p : Printed) : ∃ x, Tracks x p.total ∧ valueOf p.text = if p.minus then x.neg else x := by
  have plain : spellHalves p.text = p.text := halves_quiet fun c member => (text_quiet p c member).1
  have bare : Text.trimStart p.text = p.text :=
    Text.trim_start_head fun c first => (text_quiet p c (List.mem_of_head? first)).2
  refine ⟨_, total_tracks p, ?_⟩
  rw [valueOf, plain, bare]
  split
  · rename_i s front
    rw [if_pos ((text_head p).1 ⟨s, front⟩)]
  · rename_i other
    rw [if_neg fun minus => by
      obtain ⟨s, front⟩ := (text_head p).2 minus
      exact other s front]

-- What stands behind a sign other than the one in front is missing from the sum, and once more
-- taken from it.
theorem sum_turned (minus : Bool) (ts : List (Bool × Term)) :
    (ts.map signed).sum = (if minus then -1 else 1) * (((ts.map fun t => t.2.amount).sum : Nat) -
      2 * ((ts.map fun t => if t.1 = minus then 0 else t.2.amount).sum : Nat)) := by
  induction ts with
  | nil => simp
  | cons t ts ih =>
    obtain ⟨sign, t⟩ := t
    rw [List.map_cons, List.sum_cons, ih]
    cases minus <;> cases sign <;> simp [signed] <;> omega

theorem turned_none (p : Printed) : (p.terms.map fun t => if t.1 = p.minus then 0 else t.2.amount).sum = 0 ↔
    ∀ t ∈ p.terms, t.1 ≠ p.minus → t.2.amount = 0 := by
  rw [List.sum_eq_zero_iff_forall_eq_nat, List.forall_mem_map]
  refine forall₂_congr fun t _ => ?_
  split <;> simp_all

def spelled (p : Printed) : String := String.ofList p.text

/-- The value of a printed stat is the sum of its whole numbers, negative if there is a minus in
    front. It is their signed sum just if only terms that count nothing stand behind a sign other
    than the one in front. -/
theorem value_signed_iff (p : Printed) :
    (p.total < 2 ^ 53 → Counts (ofText p.spelled).value (if p.minus then -(p.total : Int) else p.total)) ∧
      (p.sum.natAbs < 2 ^ 53 →
        (Counts (ofText p.spelled).value p.sum ↔ ∀ t ∈ p.terms, t.1 ≠ p.minus → t.2.amount = 0)) := by
  obtain ⟨x, tracks, value⟩ := value_of_text p
  have read : (ofText p.spelled).value = if p.minus then x.neg else x := by
    rw [ofText, spelled, String.toList_ofList, value]
  have exact (small : p.total < 2 ^ 53) :
      Counts (ofText p.spelled).value (if p.minus then -(p.total : Int) else p.total) := by
    rw [read]
    cases p.minus with
    | true => exact (tracks.counts small).neg tracks.within
    | false => exact tracks.counts small
  refine ⟨exact, fun less => ?_⟩
  have turned := sum_turned p.minus p.terms
  rw [← sum, ← total] at turned
  rw [← turned_none]
  generalize (p.terms.map fun t => if t.1 = p.minus then 0 else t.2.amount).sum = away at *
  constructor
  · intro counts
    -- A sum that was rounded would be too large to be the signed one.
    have small : p.total < 2 ^ 53 := by
      refine tracks.small ?_ less
      rw [← counts.grains, read]
      cases p.minus with
      | true => rw [if_pos rfl, Binary64.neg_grains tracks.within, Int.natAbs_neg]
      | false => rfl
    have same := counts.same (exact small)
    rw [same] at turned
    cases minus : p.minus <;> simp [minus] at turned <;> omega
  · rintro rfl
    have same : p.sum = if p.minus then -(p.total : Int) else p.total := by
      rw [turned]
      cases p.minus <;> simp
    have small : p.total < 2 ^ 53 := by
      rw [same] at less
      cases minus : p.minus <;> simp [minus] at less <;> omega
    rw [same]
    exact exact small

-- One less one counts two, and minus one and something more counts minus one.
theorem one_less_one :
    let one : Term := .number ['1'] (by decide) (by simp [Text.Digits]; decide)
    let less : Printed := ⟨false, one, [(true, one)]⟩
    let more : Printed := ⟨true, one, [(false, .unknown)]⟩
    (less.spelled = "1-1" ∧ less.total < 2 ^ 53 ∧ less.sum = 0 ∧ Counts (ofText "1-1").value 2 ∧
      ¬ Counts (ofText "1-1").value 0) ∧
      more.spelled = "-1+X" ∧ more.sum = -1 ∧ Counts (ofText "-1+X").value (-1) := by
  intro one less more
  obtain ⟨value, signed⟩ := value_signed_iff less
  refine ⟨⟨rfl, by decide, rfl, value (by decide), fun counts => ?_⟩, rfl, rfl, ?_⟩
  · exact absurd ((signed (by decide)).1 counts (true, one) (by simp [less, terms]) (by decide)) (by decide)
  · refine ((value_signed_iff more).2 (by decide)).2 fun t member other => ?_
    rcases List.mem_cons.1 member with rfl | later
    · exact absurd rfl other
    · rw [List.mem_singleton.1 later]
      rfl

end Printed

end Stat

end Deckwright
