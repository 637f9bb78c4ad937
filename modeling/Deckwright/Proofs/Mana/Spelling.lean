import Mathlib.Logic.Relation
import Deckwright.Proofs.Mana.Cost
set_option autoImplicit false

namespace Deckwright.ManaCost

-- The nearest sign on a side, blanks passed over, is a brace, or there is none.
def Edge (side : List Char) : Prop := ∀ c ∈ side.find? (fun c => !Text.isBlank c), IsBrace c

-- One change to a spelling: letters of ASCII put in the other case, or blanks put in where a brace or
-- an end of the text is next on one side. Between two symbols a brace is next on both sides.
inductive Respelling : List Char → List Char → Prop
  | letters {s t : List Char} (same : Text.asciiUpper s = Text.asciiUpper t) : Respelling s t
  | blanks (front gap back : List Char) (blank : Text.Blank gap) (edge : Edge front.reverse ∨ Edge back) :
      Respelling (front ++ back) (front ++ (gap ++ back))

section Edges

variable {side : List Char}

theorem edge_split (edge : Edge side) :
    Text.Blank side ∨ ∃ gap c rest, Text.Blank gap ∧ IsBrace c ∧ side = gap ++ c :: rest := by
  cases near : side.find? fun c => !Text.isBlank c with
  | none =>
    left
    intro c member
    simpa using List.find?_eq_none.1 near c member
  | some c =>
    obtain ⟨_, gap, rest, split, blank⟩ := List.find?_eq_some_iff_append.1 near
    exact .inr ⟨gap, c, rest, fun d member => by simpa using blank d member, edge c near, split⟩

theorem edge_append (edge : Edge side) {c : Char} (brace : IsBrace c) (rest : List Char) : Edge (side ++ c :: rest) := by
  intro d near
  rw [Option.mem_def, List.find?_append] at near
  cases nearer : side.find? fun c => !Text.isBlank c with
  | none =>
    have solid : Text.isBlank c = false := by rcases brace with rfl | rfl <;> rfl
    rw [nearer, Option.none_or, List.find?_cons_of_pos (by rw [solid, Bool.not_false])] at near
    exact Option.some.inj near ▸ brace
  | some e =>
    rw [nearer, Option.some_or] at near
    exact edge d (nearer.trans near)

theorem edge_here {c : Char} (brace : IsBrace c) (rest : List Char) : Edge (c :: rest) :=
  @edge_append [] nofun c brace rest

end Edges

section Kept

theorem letters_kept {s t : List Char} (same : Text.asciiUpper s = Text.asciiUpper t) :
    symbols? none s = symbols? none t := by
  have left : symbols? none (Text.asciiUpper s) = symbols? none s := symbols_upper none s
  have right : symbols? none (Text.asciiUpper t) = symbols? none t := symbols_upper none t
  rw [← left, same, right]

theorem blanks_kept {front gap back : List Char} (blank : Text.Blank gap) (edge : Edge front.reverse ∨ Edge back) :
    symbols? none (front ++ back) = symbols? none (front ++ (gap ++ back)) := by
  rcases edge with left | right
  · rcases edge_split left with none | ⟨near, c, rest, close, brace, turned⟩
    · have before : Text.Blank front := fun d member => none d (List.mem_reverse.2 member)
      rw [gap_skipped before, gap_skipped before, gap_skipped blank]
    · obtain rfl := List.reverse_eq_append_iff.1 turned
      have close : Text.Blank near.reverse := fun d member => close d (List.mem_reverse.1 member)
      simp only [List.reverse_cons, List.append_assoc, List.singleton_append]
      apply symbols_front
      intro opened
      rw [List.cons_append, List.cons_append, symbols_behind brace close, symbols_behind brace close,
        symbols_behind brace blank]
  · apply symbols_front
    intro opened
    rcases edge_split right with none | ⟨near, c, rest, close, brace, rfl⟩
    · have both : Text.Blank (gap ++ back) := fun d member => (List.mem_append.1 member).elim (blank d) (none d)
      rw [gap_last none, gap_last both]
    · have both : Text.Blank (gap ++ near) := fun d member => (List.mem_append.1 member).elim (blank d) (close d)
      rw [← List.append_assoc, symbols_before brace close, symbols_before brace both]

theorem respelled_kept {s t : List Char} (respelled : Relation.EqvGen Respelling s t) :
    symbols? none s = symbols? none t := by
  have step (s t : List Char) (respelling : Respelling s t) : symbols? none s = symbols? none t := by
    cases respelling with
    | letters same => exact letters_kept same
    | blanks front gap back blank edge => exact blanks_kept blank edge
  exact (eq_equivalence.comap (symbols? none)).eqvGen_iff.1 (respelled.mono step)

end Kept

section Reached

variable {s t : List Char}

theorem respelling_behind (front : List Char) (respelling : Respelling s t) :
    Respelling (front ++ '}' :: s) (front ++ '}' :: t) := by
  cases respelling with
  | letters same =>
    apply Respelling.letters
    simp only [Text.asciiUpper] at same
    simp only [Text.asciiUpper, List.map_append, List.map_cons, same]
  | blanks early gap back blank edge =>
    have wider : Edge (front ++ '}' :: early).reverse ∨ Edge back := by
      refine edge.imp_left fun left => ?_
      rw [List.reverse_append, List.reverse_cons, List.append_assoc]
      exact edge_append left (.inr rfl) front.reverse
    simpa only [List.append_assoc, List.cons_append] using Respelling.blanks (front ++ '}' :: early) gap back blank wider

theorem respelled_behind (front : List Char) (respelled : Relation.EqvGen Respelling s t) :
    Relation.EqvGen Respelling (front ++ '}' :: s) (front ++ '}' :: t) := by
  induction respelled with
  | rel s t respelling => exact .rel _ _ (respelling_behind front respelling)
  | refl s => exact .refl _
  | symm s t _ ih => exact ih.symm
  | trans s t u _ _ first second => exact first.trans _ _ _ second

theorem symbol_respelled {cs : List Char} {m : ManaSymbol} (found : ManaSymbol.read cs = .ok m) (s : List Char) :
    Relation.EqvGen Respelling ('{' :: (m.name.toList ++ '}' :: s)) ('{' :: (cs ++ '}' :: s)) := by
  obtain ⟨front, back, before, behind, split⟩ := Text.trim_split cs
  have letters : Respelling ('{' :: (m.name.toList ++ '}' :: s)) ('{' :: (Text.trim cs ++ '}' :: s)) := by
    apply Respelling.letters
    have again := Text.ascii_upper_again (Text.trim cs)
    rw [(ManaSymbol.read_iff.1 found).1]
    simp only [Text.asciiUpper] at again
    simp only [Text.asciiUpper, List.map_append, List.map_cons, again]
  have last : Respelling ('{' :: (Text.trim cs ++ '}' :: s)) ('{' :: (Text.trim cs ++ (back ++ '}' :: s))) :=
    .blanks ('{' :: Text.trim cs) back ('}' :: s) behind (.inr (edge_here (.inr rfl) s))
  have first : Respelling ('{' :: (Text.trim cs ++ (back ++ '}' :: s))) ('{' :: (cs ++ '}' :: s)) := by
    conv => rhs; rw [split, List.append_assoc, List.append_assoc]
    exact .blanks ['{'] front _ before (.inl (edge_here (.inl rfl) []))
  exact (Relation.EqvGen.rel _ _ letters).trans _ _ _ ((Relation.EqvGen.rel _ _ last).trans _ _ _ (.rel _ _ first))

theorem scanned_respelled {opened : Option (List Char)} {ms : List ManaSymbol} (scanned : Scanned opened s ms) :
    Relation.EqvGen Respelling (ms.flatMap ManaSymbol.text) (opened.elim s fun cs => '{' :: (cs.reverse ++ s)) := by
  induction scanned with
  | done => exact .refl []
  | @blank c s _ blank _ ih =>
    have led : Respelling s (c :: s) := .blanks [] [c] s (List.forall_mem_singleton.2 blank) (.inl nofun)
    exact ih.trans _ _ _ (.rel _ _ led)
  | opens _ ih => exact ih
  | @closes _ s m _ symbol _ ih =>
    have behind := respelled_behind ('{' :: m.name.toList) ih
    have here := symbol_respelled symbol s
    rw [List.flatMap_cons, ManaSymbol.text, List.append_assoc]
    exact behind.trans _ _ _ here
  | @inside cs s c _ _ _ ih =>
    have moved : (c :: cs).reverse ++ s = cs.reverse ++ c :: s := by rw [List.reverse_cons, List.append_assoc]; rfl
    rw [Option.elim_some, moved] at ih
    exact ih

end Reached

section Whole

variable {s : String} {c : ManaCost}

theorem read_respelled (found : read s = .ok c) : Relation.EqvGen Respelling c.text s.toList :=
  scanned_respelled (symbols_scanned (read_some_iff.1 found))

theorem read_iff_respelled (found : read s = .ok c) (t : String) :
    read t = .ok c ↔ Relation.EqvGen Respelling s.toList t.toList := by
  constructor
  · intro again
    exact (read_respelled found).symm.trans _ _ _ (read_respelled again)
  · intro respelled
    rw [read_some_iff] at found ⊢
    rw [← respelled_kept respelled, found]

theorem read_text (found : read s = .ok c) : read c.toText = .ok c := by
  refine (read_iff_respelled found c.toText).2 ?_
  rw [toText, String.toList_ofList]
  exact (read_respelled found).symm

end Whole

/-- The text of a cost that was read is read as the cost again. Two texts of costs put one behind the
    other are read as the symbols of both, which have the colors of both. And a text is read as the
    same cost as another one if and only if they differ in blanks next to braces and the case of
    letters alone. -/
theorem text_canonical {s t : String} {c d : ManaCost} (first : read s = .ok c) (second : read t = .ok d) :
    read c.toText = .ok c ∧
      (∃ both, read (s ++ t) = .ok both ∧ both.symbols = c.symbols ++ d.symbols ∧
        both.colors = c.colors.union d.colors) ∧
      ∀ u : String, read u = .ok c ↔ Relation.EqvGen Respelling s.toList u.toList := by
  refine ⟨read_text first, ⟨_, read_append first second, rfl, ?_⟩, read_iff_respelled first⟩
  exact colors_append c.symbols d.symbols

theorem hybrid_text_canonical :
    read " \x7b 2 \x7d\x7bw/u\x7d" = .ok ⟨[⟨"2"⟩, ⟨"W/U"⟩]⟩ ∧ read "\x7br\x7d\t" = .ok ⟨[⟨"R"⟩]⟩ ∧
      read "\x7b2\x7d\x7bW/U\x7d" = .ok ⟨[⟨"2"⟩, ⟨"W/U"⟩]⟩ ∧
      (∃ both, read " \x7b 2 \x7d\x7bw/u\x7d\x7br\x7d\t" = .ok both ∧ both.symbols = [⟨"2"⟩, ⟨"W/U"⟩, ⟨"R"⟩] ∧
        both.colors = ColorSet.ofList [.white, .blue, .red]) ∧
      Relation.EqvGen Respelling " \x7b 2 \x7d\x7bw/u\x7d".toList "\x7b2\x7d \x7bW/u \x7d".toList := by
  have first : read " \x7b 2 \x7d\x7bw/u\x7d" = .ok ⟨[⟨"2"⟩, ⟨"W/U"⟩]⟩ := rfl
  have second : read "\x7br\x7d\t" = .ok ⟨[⟨"R"⟩]⟩ := rfl
  obtain ⟨again, ⟨both, found, symbols, colors⟩, spelled⟩ := text_canonical first second
  refine ⟨first, second, again, ⟨both, found, symbols, ?_⟩, (spelled _).1 rfl⟩
  rw [colors]
  rfl

end Deckwright.ManaCost
