import Deckwright.Filter.Bracketed
import Deckwright.Proofs.Text.Escape
set_option autoImplicit false

/- A text whose brackets match is passed over as a whole, whatever was open before it and whatever stands behind
   it, and a scan that comes to an end has passed over nothing else. -/
namespace Deckwright

namespace Text

/-- Every bracket that is not escaped has its partner. -/
inductive Balanced : List Char → Prop where
  | nil : Balanced []
  | plain {c : Char} {s : List Char} (passed : c ∉ bracketSpecials) (rest : Balanced s) : Balanced (c :: s)
  | pair {s : List Char} (c : Char) (rest : Balanced s) : Balanced ('\\' :: c :: s)
  | nested {inner s : List Char} (inside : Balanced inner) (rest : Balanced s) :
    Balanced ('<' :: (inner ++ '>' :: s))

theorem Balanced.append {s t : List Char} (left : Balanced s) (right : Balanced t) : Balanced (s ++ t) := by
  induction left with
  | nil => exact right
  | plain passed _ ih => exact .plain passed ih
  | pair c _ ih => exact .pair c ih
  | nested inside _ _ ih => simpa using Balanced.nested inside ih

theorem Balanced.of_sealed {s : List Char} (closed : Sealed ['<', '>'] s) : Balanced s := by
  induction closed with
  | nil => exact .nil
  | plain other passed _ ih =>
    refine .plain ?_ ih
    simp only [bracketSpecials, List.mem_cons, not_or] at passed ⊢
    exact ⟨other, passed⟩
  | pair c _ ih => exact .pair c ih

theorem Balanced.of_plain {s : List Char} (plain : ∀ c ∈ s, c ∉ bracketSpecials) : Balanced s := by
  induction s with
  | nil => exact .nil
  | cons c s ih => exact .plain (plain c (by simp)) (ih fun d later => plain d (List.mem_cons_of_mem c later))

theorem Balanced.of_cons {c : Char} {s : List Char} (passed : c ∉ bracketSpecials) (whole : Balanced (c :: s)) :
    Balanced s := by
  cases whole with
  | plain _ rest => exact rest
  | pair => exact absurd (by decide) passed
  | nested => exact absurd (by decide) passed

theorem Balanced.of_append {s t : List Char} (plain : ∀ c ∈ s, c ∉ bracketSpecials) (whole : Balanced (s ++ t)) :
    Balanced t := by
  induction s with
  | nil => exact whole
  | cons c s ih =>
    exact ih (fun d later => plain d (List.mem_cons_of_mem c later)) (whole.of_cons (plain c (by simp)))

def Bracketed (s : List Char) : Prop := ∃ inner, Balanced inner ∧ s = '<' :: (inner ++ ['>'])

/-- Every bracket has its partner but for so many that close one opened before. -/
inductive Unopened : Nat → List Char → Prop where
  | none {t : List Char} (balanced : Balanced t) : Unopened 0 t
  | more {n : Nat} {s t : List Char} (balanced : Balanced s) (rest : Unopened n t) : Unopened (n + 1) (s ++ '>' :: t)

namespace Unopened

variable {n : Nat} {s t : List Char}

theorem behind (balanced : Balanced s) (rest : Unopened n t) : Unopened n (s ++ t) := by
  cases rest with
  | none later => exact .none (balanced.append later)
  | more later rest =>
    rw [← List.append_assoc]
    exact .more (balanced.append later) rest

theorem plain {c : Char} (passed : c ∉ bracketSpecials) (rest : Unopened n t) : Unopened n (c :: t) :=
  behind (.plain passed .nil) rest

theorem pair (c : Char) (rest : Unopened n t) : Unopened n ('\\' :: c :: t) := behind (.pair c .nil) rest

theorem opens (rest : Unopened (n + 1) t) : Unopened n ('<' :: t) := by
  cases rest with
  | more balanced rest =>
    have nested := behind (.nested balanced .nil) rest
    rwa [List.cons_append, List.append_assoc] at nested

theorem closes (rest : Unopened n t) : Unopened (n + 1) ('>' :: t) := more .nil rest

end Unopened

/-- A text is empty, ends in a lone backslash, or begins with a pair, a bracket or another character. -/
@[elab_as_elim]
theorem scan_induction {motive : List Char → Prop} (nil : motive []) (slash : motive ['\\'])
    (pair : ∀ c s, motive s → motive ('\\' :: c :: s)) (opens : ∀ s, motive s → motive ('<' :: s))
    (closes : ∀ s, motive s → motive ('>' :: s))
    (plain : ∀ c s, c ∉ bracketSpecials → motive s → motive (c :: s)) (s : List Char) : motive s := by
  induction s using escape_induction with
  | nil => exact nil
  | slash => exact slash
  | pair c s ih => exact pair c s ih
  | sign c s other ih =>
    by_cases special : c ∈ bracketSpecials
    · simp only [bracketSpecials, List.mem_cons, List.not_mem_nil, or_false, other, false_or] at special
      rcases special with rfl | rfl
      · exact opens s ih
      · exact closes s ih
    · exact plain c s special ih

end Text

namespace Filter

open Text (Balanced Bracketed Unopened bracketSpecials)

section Closing

variable {depth : Nat} {s : List Char}

def closingAfter (front : List Char) : Option (List Char × List Char) → Option (List Char × List Char) :=
  Option.map fun parts => (front ++ parts.1, parts.2)

theorem closing_slash : closing depth ['\\'] = none := rfl

theorem closing_plain {c : Char} (passed : c ∉ bracketSpecials) :
    closing depth (c :: s) = closingAfter [c] (closing depth s) := by
  simp only [bracketSpecials, List.mem_cons, List.not_mem_nil, or_false, not_or] at passed
  obtain ⟨slash, opens, closes⟩ := passed
  cases s with
  | nil => exact if_neg (by simp [closes])
  | cons d s => exact (if_neg slash).trans ((if_neg opens).trans (if_neg closes))

theorem closing_pair (c : Char) : closing depth ('\\' :: c :: s) = closingAfter ['\\', c] (closing depth s) := by
  cases depth <;> rfl

theorem closing_open : closing depth ('<' :: s) = closingAfter ['<'] (closing (depth + 1) s) := by
  cases s <;> cases depth <;> rfl

theorem closing_close : closing (depth + 1) ('>' :: s) = closingAfter ['>'] (closing depth s) := by
  cases s <;> rfl

theorem closing_here : closing 0 ('>' :: s) = some ([], s) := by
  cases s <;> rfl

theorem closing_after_append (s t : List Char) (o : Option (List Char × List Char)) :
    closingAfter s (closingAfter t o) = closingAfter (s ++ t) o := by
  cases o <;> simp [closingAfter]

theorem closing_balanced {t : List Char} (balanced : Balanced t) :
    closing depth (t ++ s) = closingAfter t (closing depth s) := by
  induction balanced generalizing depth s with
  | nil => cases closed : closing depth s <;> simp [closingAfter, closed]
  | @plain c t passed _ ih =>
    rw [List.cons_append, closing_plain passed, ih, closing_after_append]
    rfl
  | @pair t c _ ih =>
    rw [List.cons_append, List.cons_append, closing_pair c, ih, closing_after_append]
    rfl
  | @nested inner t _ _ inside rest =>
    rw [List.cons_append, List.append_assoc, List.cons_append, closing_open, inside, closing_close, rest,
      closing_after_append, closing_after_append, closing_after_append]
    simp

theorem closing_after_some {front inner back : List Char} {o : Option (List Char × List Char)}
    (found : closingAfter front o = some (inner, back)) : ∃ later, o = some (later, back) ∧ inner = front ++ later := by
  obtain ⟨⟨later, rest⟩, rfl, same⟩ := Option.map_eq_some_iff.1 found
  cases same
  exact ⟨later, rfl, rfl⟩

theorem closing_sound {front back : List Char} (found : closing depth s = some (front, back)) :
    Unopened depth front ∧ s = front ++ '>' :: back := by
  -- The depth goes up and down with the brackets that are passed.
  induction s using Text.scan_induction generalizing depth front with
  | nil => cases depth <;> cases found
  | slash =>
    rw [closing_slash] at found
    cases found
  | pair c s ih =>
    rw [closing_pair] at found
    obtain ⟨later, closed, rfl⟩ := closing_after_some found
    obtain ⟨rest, rfl⟩ := ih closed
    exact ⟨.pair c rest, rfl⟩
  | opens s ih =>
    rw [closing_open] at found
    obtain ⟨later, closed, rfl⟩ := closing_after_some found
    obtain ⟨rest, rfl⟩ := ih closed
    exact ⟨.opens rest, rfl⟩
  | closes s ih =>
    cases depth with
    | zero =>
      rw [closing_here] at found
      cases found
      exact ⟨.none .nil, rfl⟩
    | succ depth =>
      rw [closing_close] at found
      obtain ⟨later, closed, rfl⟩ := closing_after_some found
      obtain ⟨rest, rfl⟩ := ih closed
      exact ⟨.closes rest, rfl⟩
  | plain c s passed ih =>
    rw [closing_plain passed] at found
    obtain ⟨later, closed, rfl⟩ := closing_after_some found
    obtain ⟨rest, rfl⟩ := ih closed
    exact ⟨.plain passed rest, rfl⟩

theorem body_bracketed {inner : List Char} (balanced : Balanced inner) : body ('<' :: (inner ++ ['>'])) = .ok inner := by
  have closed : closing 0 (inner ++ ['>']) = some (inner, []) := by
    rw [closing_balanced balanced, closing_here]
    simp [closingAfter]
  simp [body, closed]

theorem body_sound {inner : List Char} (found : body s = .ok inner) :
    Balanced inner ∧ s = '<' :: (inner ++ ['>']) := by
  unfold body at found
  split at found
  · split at found
    · cases found
    · rename_i closed
      cases found
      obtain ⟨unopened, rfl⟩ := closing_sound closed
      cases unopened with
      | none balanced => exact ⟨balanced, rfl⟩
    · cases found
  · cases found

end Closing

/-- Blanks and bracketed texts in any order. -/
inductive Spread : List Char → List (List Char) → Prop where
  | nil : Spread [] []
  | blank {c : Char} {s : List Char} {ps : List (List Char)} (blank : Text.isBlank c = true) (rest : Spread s ps) :
    Spread (c :: s) ps
  | piece {p s : List Char} {ps : List (List Char)} (bracketed : Bracketed p) (rest : Spread s ps) :
    Spread (p ++ s) (p :: ps)

section Pieces

variable {depth : Nat} {opened s : List Char}

theorem pieces_slash : piecesFrom (some (depth, opened)) ['\\'] = .error .unbalanced := rfl

theorem pieces_plain {c : Char} (passed : c ∉ bracketSpecials) :
    piecesFrom (some (depth, opened)) (c :: s) = piecesFrom (some (depth, c :: opened)) s := by
  simp only [bracketSpecials, List.mem_cons, List.not_mem_nil, or_false, not_or] at passed
  obtain ⟨slash, opens, closes⟩ := passed
  cases s with
  | nil => exact if_neg (by simp [closes])
  | cons d s => exact (if_neg slash).trans ((if_neg opens).trans (if_neg closes))

theorem pieces_pair (c : Char) :
    piecesFrom (some (depth, opened)) ('\\' :: c :: s) = piecesFrom (some (depth, c :: '\\' :: opened)) s := by
  cases depth <;> rfl

theorem pieces_open : piecesFrom (some (depth, opened)) ('<' :: s) = piecesFrom (some (depth + 1, '<' :: opened)) s := by
  cases s <;> cases depth <;> rfl

theorem pieces_close :
    piecesFrom (some (depth + 1, opened)) ('>' :: s) = piecesFrom (some (depth, '>' :: opened)) s := by
  cases s <;> rfl

theorem pieces_here :
    piecesFrom (some (0, opened)) ('>' :: s) = (piecesFrom none s).map (('>' :: opened).reverse :: ·) := by
  cases s <;> rfl

theorem pieces_outside (c : Char) (s : List Char) : piecesFrom none (c :: s) =
    if c = '<' then piecesFrom (some (0, [c])) s
    else if Text.isBlank c then piecesFrom none s
    else .error (.between c) := rfl

theorem pieces_blank {c : Char} (blank : Text.isBlank c = true) : piecesFrom none (c :: s) = piecesFrom none s := by
  have other : c ≠ '<' := by
    rintro rfl
    revert blank
    decide
  rw [pieces_outside, if_neg other, if_pos blank]

theorem pieces_balanced {t : List Char} (balanced : Balanced t) :
    piecesFrom (some (depth, opened)) (t ++ s) = piecesFrom (some (depth, t.reverse ++ opened)) s := by
  induction balanced generalizing depth opened s with
  | nil => rfl
  | @plain c t passed _ ih =>
    rw [List.cons_append, pieces_plain passed, ih]
    simp
  | @pair t c _ ih =>
    rw [List.cons_append, List.cons_append, pieces_pair, ih]
    simp
  | @nested inner t _ _ inside rest =>
    rw [List.cons_append, List.append_assoc, List.cons_append, pieces_open, inside, pieces_close, rest]
    simp

theorem pieces_piece {p : List Char} (bracketed : Bracketed p) :
    piecesFrom none (p ++ s) = (piecesFrom none s).map (p :: ·) := by
  obtain ⟨inner, balanced, rfl⟩ := bracketed
  rw [List.cons_append, pieces_outside, if_pos rfl, List.append_assoc, List.singleton_append, pieces_balanced balanced,
    pieces_here]
  simp

theorem pieces_spread {ps : List (List Char)} (spread : Spread s ps) : pieces s = .ok ps := by
  unfold pieces
  induction spread with
  | nil => rfl
  | blank blank _ ih => rw [pieces_blank blank, ih]
  | piece bracketed _ ih =>
    rw [pieces_piece bracketed, ih]
    rfl

theorem pieces_opened {ps : List (List Char)} (found : piecesFrom (some (depth, opened)) s = .ok ps) :
    ∃ front back qs, Unopened depth front ∧ s = front ++ '>' :: back ∧ piecesFrom none back = .ok qs ∧
      ps = (opened.reverse ++ front ++ ['>']) :: qs := by
  induction s using Text.scan_induction generalizing depth opened with
  | nil => cases found
  | slash =>
    rw [pieces_slash] at found
    cases found
  | pair c s ih =>
    rw [pieces_pair] at found
    obtain ⟨front, back, qs, rest, rfl, later, same⟩ := ih found
    exact ⟨_, back, qs, .pair c rest, rfl, later, by simpa using same⟩
  | opens s ih =>
    rw [pieces_open] at found
    obtain ⟨front, back, qs, rest, rfl, later, same⟩ := ih found
    exact ⟨_, back, qs, .opens rest, rfl, later, by simpa using same⟩
  | closes s ih =>
    cases depth with
    | zero =>
      rw [pieces_here] at found
      cases later : piecesFrom none s with
      | error e =>
        rw [later] at found
        cases found
      | ok qs =>
        rw [later] at found
        cases found
        exact ⟨[], s, qs, .none .nil, rfl, later, by simp⟩
    | succ depth =>
      rw [pieces_close] at found
      obtain ⟨front, back, qs, rest, rfl, later, same⟩ := ih found
      exact ⟨_, back, qs, .closes rest, rfl, later, by simpa using same⟩
  | plain c s passed ih =>
    rw [pieces_plain passed] at found
    obtain ⟨front, back, qs, rest, rfl, later, same⟩ := ih found
    exact ⟨_, back, qs, .plain passed rest, rfl, later, by simpa using same⟩

theorem spread_of_pieces {ps : List (List Char)} (found : pieces s = .ok ps) : Spread s ps := by
  unfold pieces at found
  induction size : s.length using Nat.strongRecOn generalizing s ps with
  | _ n ih =>
    cases s with
    | nil =>
      cases found
      exact .nil
    | cons c s =>
      rw [pieces_outside] at found
      split at found
      · rename_i opens
        obtain ⟨front, back, qs, unopened, rfl, later, rfl⟩ := pieces_opened found
        cases unopened with
        | none balanced =>
          have rest : Spread back qs := ih back.length (by rw [← size]; simp; omega) later rfl
          have piece : Bracketed ('<' :: (front ++ ['>'])) := ⟨front, balanced, rfl⟩
          simpa [opens] using Spread.piece piece rest
      · split at found
        · rename_i blank
          exact .blank blank (ih s.length (by rw [← size]; simp) found rfl)
        · cases found

theorem pieces_bracketed {ps : List (List Char)} (bracketed : ∀ p ∈ ps, Bracketed p) :
    pieces (ps.flatMap (' ' :: ·)) = .ok ps := by
  refine pieces_spread ?_
  induction ps with
  | nil => exact .nil
  | cons p rest ih =>
    have later := ih fun q member => bracketed q (List.mem_cons_of_mem _ member)
    exact .blank (by decide) (.piece (bracketed p (by simp)) later)

end Pieces

end Filter

end Deckwright
