import Deckwright.Mana.Cost
import Deckwright.Proofs.Mana.Color
import Deckwright.Proofs.Outcome
import Deckwright.Proofs.Text.Case
import Deckwright.Proofs.Text.Search
set_option autoImplicit false

namespace Deckwright

namespace ManaSymbol

theorem read_iff {s : List Char} {m : ManaSymbol} :
    read s = .ok m ↔ m.name.toList = Text.asciiUpper (Text.trim s) ∧
      ∀ part ∈ Text.splitOn '/' m.name.toList, isPart part = true := by
  rw [read]
  by_cases none : (Text.asciiUpper (Text.trim s)).isEmpty
  · rw [if_pos none]
    refine iff_of_false nofun ?_
    rintro ⟨same, parts⟩
    rw [same, List.isEmpty_iff.1 none] at parts
    exact absurd (parts [] (List.mem_singleton_self [])) Bool.false_ne_true
  · rw [if_neg none]
    by_cases parts : (Text.splitOn '/' (Text.asciiUpper (Text.trim s))).all isPart
    · rw [if_pos parts]
      constructor
      · intro found
        obtain rfl := Except.ok.inj found
        rw [String.toList_ofList]
        exact ⟨rfl, List.all_eq_true.1 parts⟩
      · rintro ⟨same, _⟩
        rw [← same, String.ofList_toList]
    · rw [if_neg parts]
      refine iff_of_false nofun ?_
      rintro ⟨same, each⟩
      rw [same] at each
      exact parts (List.all_eq_true.2 each)

theorem read_again {s : List Char} {m : ManaSymbol} (found : read s = .ok m) : read m.name.toList = .ok m := by
  obtain ⟨name, parts⟩ := read_iff.1 found
  refine read_iff.2 ⟨?_, parts⟩
  rw [name, Text.trim_upper, Text.bare_trim (Text.trim_bare s), Text.ascii_upper_again]

theorem read_alike {s t : List Char} (same : Text.asciiUpper (Text.trim s) = Text.asciiUpper (Text.trim t)) :
    (read s).toOption = (read t).toOption := by
  apply Option.ext
  intro m
  rw [to_option_some, to_option_some, read_iff, read_iff, same]

theorem part_unbraced {part : List Char} (whole : isPart part = true) : '{' ∉ part := by
  intro inside
  rw [isPart, Bool.and_eq_true, Bool.or_eq_true] at whole
  rcases whole.2 with letter | digits
  · have free : ∀ w ∈ letterParts, '{' ∉ w.toList := by decide
    have member : String.ofList part ∈ letterParts := by simpa using letter
    exact free _ member (String.toList_ofList ▸ inside)
  · exact absurd (List.all_eq_true.1 digits '{' inside) Bool.false_ne_true

theorem read_braced {s : List Char} (inside : '{' ∈ s) : (read s).toOption = none := by
  cases found : read s with
  | error e => rfl
  | ok m =>
    obtain ⟨name, parts⟩ := read_iff.1 found
    have kept : '{' ∈ m.name.toList := by
      rw [name]
      exact List.mem_map.2 ⟨'{', Text.mem_trim inside rfl, rfl⟩
    obtain ⟨part, member, here⟩ := Text.mem_split_on kept (by decide : '{' ≠ '/')
    exact absurd here (part_unbraced (parts part member))

end ManaSymbol

namespace ManaCost

-- The scan of symbols without its faults, which quote the text they were found in.
def symbols? : Option (List Char) → List Char → Option (List ManaSymbol)
  | none, [] => some []
  | some _, [] => none
  | none, c :: s =>
    if Text.isBlank c then symbols? none s else if c = '{' then symbols? (some []) s else none
  | some opened, c :: s =>
    if c = '}' then (ManaSymbol.read opened.reverse).toOption.bind fun m => (symbols? none s).map (m :: ·)
    else symbols? (some (c :: opened)) s

section Steps

theorem symbols_outside (c : Char) (s : List Char) : symbols? none (c :: s) =
    if Text.isBlank c then symbols? none s else if c = '{' then symbols? (some []) s else none := rfl

theorem symbols_inside (cs : List Char) (c : Char) (s : List Char) : symbols? (some cs) (c :: s) =
    if c = '}' then (ManaSymbol.read cs.reverse).toOption.bind fun m => (symbols? none s).map (m :: ·)
    else symbols? (some (c :: cs)) s := rfl

theorem symbols_told (whole : String) (opened : Option (List Char)) (s : List Char) :
    (symbolsFrom whole opened s).toOption = symbols? opened s := by
  induction s generalizing opened with
  | nil => cases opened <;> rfl
  | cons c s ih =>
    cases opened with
    | none =>
      rw [symbols_outside, symbolsFrom, ← ih none, ← ih (some [])]
      by_cases blank : Text.isBlank c
      · rw [if_pos blank, if_pos blank]
      · rw [if_neg blank, if_neg blank]
        by_cases brace : c = '{'
        · rw [if_pos brace, if_pos brace]
        · rw [if_neg brace, if_neg brace]
          rfl
    | some cs =>
      rw [symbols_inside, symbolsFrom, ← ih none, ← ih (some (c :: cs))]
      by_cases closes : c = '}'
      · rw [if_pos closes, if_pos closes]
        cases ManaSymbol.read cs.reverse with
        | error e => rfl
        | ok m => cases symbolsFrom whole none s <;> rfl
      · rw [if_neg closes, if_neg closes]

-- The runs of the scan that come to an end: outside of a symbol, or inside of one.
inductive Scanned : Option (List Char) → List Char → List ManaSymbol → Prop
  | done : Scanned none [] []
  | blank {c : Char} {s : List Char} {ms : List ManaSymbol} (blank : Text.isBlank c = true) (rest : Scanned none s ms) :
      Scanned none (c :: s) ms
  | opens {s : List Char} {ms : List ManaSymbol} (rest : Scanned (some []) s ms) : Scanned none ('{' :: s) ms
  | closes {cs s : List Char} {m : ManaSymbol} {ms : List ManaSymbol} (symbol : ManaSymbol.read cs.reverse = .ok m)
      (rest : Scanned none s ms) : Scanned (some cs) ('}' :: s) (m :: ms)
  | inside {cs s : List Char} {c : Char} {ms : List ManaSymbol} (within : c ≠ '}') (rest : Scanned (some (c :: cs)) s ms) :
      Scanned (some cs) (c :: s) ms

theorem symbols_scanned {opened : Option (List Char)} {s : List Char} {ms : List ManaSymbol}
    (found : symbols? opened s = some ms) : Scanned opened s ms := by
  induction s generalizing opened ms with
  | nil =>
    cases opened with
    | none =>
      obtain rfl := Option.some.inj found
      exact .done
    | some cs => cases found
  | cons c s ih =>
    cases opened with
    | none =>
      rw [symbols_outside] at found
      by_cases blank : Text.isBlank c
      · rw [if_pos blank] at found
        exact .blank blank (ih found)
      · rw [if_neg blank] at found
        by_cases brace : c = '{'
        · rw [if_pos brace] at found
          exact brace ▸ .opens (ih found)
        · rw [if_neg brace] at found
          cases found
    | some cs =>
      rw [symbols_inside] at found
      by_cases closes : c = '}'
      · rw [if_pos closes] at found
        obtain ⟨m, symbol, found⟩ := Option.bind_eq_some_iff.1 found
        obtain ⟨rest, later, rfl⟩ := Option.map_eq_some_iff.1 found
        exact closes ▸ .closes (to_option_some.1 symbol) (ih later)
      · rw [if_neg closes] at found
        exact .inside closes (ih found)

end Steps

section Front

variable {s t : List Char}

theorem symbols_front (same : ∀ opened, symbols? opened s = symbols? opened t) (front : List Char)
    (opened : Option (List Char)) : symbols? opened (front ++ s) = symbols? opened (front ++ t) := by
  induction front generalizing opened with
  | nil => exact same opened
  | cons c front ih =>
    rw [List.cons_append, List.cons_append]
    cases opened with
    | none => rw [symbols_outside, symbols_outside, ih none, ih (some [])]
    | some cs => rw [symbols_inside, symbols_inside, ih none, ih (some (c :: cs))]

theorem scanned_append {opened : Option (List Char)} {ms : List ManaSymbol} (scanned : Scanned opened s ms)
    (t : List Char) : symbols? opened (s ++ t) = (symbols? none t).map (ms ++ ·) := by
  induction scanned with
  | done => exact Option.map_id'.symm
  | blank blank _ ih => rw [List.cons_append, symbols_outside, if_pos blank, ih]
  | opens _ ih => exact ih
  | closes symbol _ ih =>
    rw [List.cons_append, symbols_inside, if_pos rfl, to_option_some.2 symbol, Option.bind_some, ih, Option.map_map]
    rfl
  | inside within _ ih => rw [List.cons_append, symbols_inside, if_neg within, ih]

theorem scanned_read {opened : Option (List Char)} {ms : List ManaSymbol} (scanned : Scanned opened s ms) :
    ∀ m ∈ ms, ∃ cs, ManaSymbol.read cs = .ok m := by
  induction scanned with
  | done => exact fun _ => nofun
  | blank _ _ ih => exact ih
  | opens _ ih => exact ih
  | closes symbol _ ih => exact List.forall_mem_cons.2 ⟨⟨_, symbol⟩, ih⟩
  | inside _ _ ih => exact ih

end Front

section Letters

theorem symbols_upper (opened : Option (List Char)) (s : List Char) :
    symbols? (opened.map Text.asciiUpper) (Text.asciiUpper s) = symbols? opened s := by
  induction s generalizing opened with
  | nil => cases opened <;> rfl
  | cons c s ih =>
    have shape : Text.asciiUpper (c :: s) = c.toUpper :: Text.asciiUpper s := rfl
    have outside : symbols? none (Text.asciiUpper s) = symbols? none s := ih none
    rw [shape]
    cases opened with
    | none =>
      have inside : symbols? (some []) (Text.asciiUpper s) = symbols? (some []) s := ih (some [])
      rw [Option.map_none, symbols_outside, symbols_outside, Text.upper_blank, outside, inside]
      simp only [Text.upper_brace (.inl rfl)]
    | some cs =>
      have inside : symbols? (some (c.toUpper :: Text.asciiUpper cs)) (Text.asciiUpper s) = symbols? (some (c :: cs)) s :=
        ih (some (c :: cs))
      have symbol : (ManaSymbol.read (Text.asciiUpper cs).reverse).toOption = (ManaSymbol.read cs.reverse).toOption := by
        apply ManaSymbol.read_alike
        have turned : (Text.asciiUpper cs).reverse = Text.asciiUpper cs.reverse := List.map_reverse.symm
        rw [turned, Text.trim_upper, Text.ascii_upper_again]
      rw [Option.map_some, symbols_inside, symbols_inside, symbol, outside, inside]
      simp only [Text.upper_brace (.inr rfl)]

end Letters

section Blanks

variable {gap : List Char}

def IsBrace (c : Char) : Prop := c = '{' ∨ c = '}'

theorem gap_passed (blank : Text.Blank gap) (opened s : List Char) :
    symbols? (some opened) (gap ++ s) = symbols? (some (gap.reverse ++ opened)) s := by
  induction gap generalizing opened with
  | nil => rfl
  | cons c gap ih =>
    obtain ⟨here, later⟩ := List.forall_mem_cons.1 blank
    have open_ : c ≠ '}' := by
      rintro rfl
      exact absurd here Bool.false_ne_true
    rw [List.cons_append, symbols_inside, if_neg open_, ih later, List.reverse_cons, List.append_assoc, List.singleton_append]

theorem gap_skipped (blank : Text.Blank gap) (s : List Char) : symbols? none (gap ++ s) = symbols? none s := by
  induction gap with
  | nil => rfl
  | cons c gap ih =>
    obtain ⟨here, later⟩ := List.forall_mem_cons.1 blank
    rw [List.cons_append, symbols_outside, if_pos here, ih later]

theorem gap_last (blank : Text.Blank gap) (opened : Option (List Char)) : symbols? opened gap = symbols? opened [] := by
  rw [← List.append_nil gap]
  cases opened with
  | none => exact gap_skipped blank []
  | some cs => exact gap_passed blank cs []

theorem symbols_alike {cs ds : List Char}
    (same : ∀ t, (ManaSymbol.read (cs.reverse ++ t)).toOption = (ManaSymbol.read (ds.reverse ++ t)).toOption)
    (s : List Char) : symbols? (some cs) s = symbols? (some ds) s := by
  induction s generalizing cs ds with
  | nil => rfl
  | cons c s ih =>
    rw [symbols_inside, symbols_inside]
    by_cases closes : c = '}'
    · have here := same []
      rw [List.append_nil, List.append_nil] at here
      rw [if_pos closes, if_pos closes, here]
    · rw [if_neg closes, if_neg closes]
      apply ih
      intro t
      simpa using same (c :: t)

theorem symbols_braced {cs : List Char} (inside : '{' ∈ cs) (s : List Char) : symbols? (some cs) s = none := by
  induction s generalizing cs with
  | nil => rfl
  | cons c s ih =>
    rw [symbols_inside]
    by_cases closes : c = '}'
    · rw [if_pos closes, ManaSymbol.read_braced (List.mem_reverse.2 inside), Option.bind_none]
    · rw [if_neg closes, ih (List.mem_cons_of_mem c inside)]

theorem symbols_behind {c : Char} (brace : IsBrace c) (blank : Text.Blank gap) (opened : Option (List Char))
    (s : List Char) : symbols? opened (c :: (gap ++ s)) = symbols? opened (c :: s) := by
  rcases brace with rfl | rfl
  · cases opened with
    | none =>
      have bare (t : List Char) : (ManaSymbol.read ((gap.reverse ++ []).reverse ++ t)).toOption =
          (ManaSymbol.read ([].reverse ++ t)).toOption := by
        apply ManaSymbol.read_alike
        rw [List.append_nil, List.reverse_reverse, Text.trim_blank_front blank, List.reverse_nil, List.nil_append]
      exact (gap_passed blank [] s).trans (symbols_alike bare s)
    | some cs =>
      have inside : '{' ∈ '{' :: cs := List.mem_cons_self
      exact (symbols_braced inside _).trans (symbols_braced inside _).symm
  · cases opened with
    | none => rfl
    | some cs => rw [symbols_inside, symbols_inside, if_pos rfl, if_pos rfl, gap_skipped blank]

theorem symbols_before {c : Char} (brace : IsBrace c) (blank : Text.Blank gap) (opened : Option (List Char))
    (s : List Char) : symbols? opened (gap ++ c :: s) = symbols? opened (c :: s) := by
  cases opened with
  | none => exact gap_skipped blank (c :: s)
  | some cs =>
    rw [gap_passed blank]
    rcases brace with rfl | rfl
    · exact (symbols_braced List.mem_cons_self s).trans (symbols_braced List.mem_cons_self s).symm
    · have bare : (ManaSymbol.read (gap.reverse ++ cs).reverse).toOption = (ManaSymbol.read cs.reverse).toOption := by
        apply ManaSymbol.read_alike
        rw [List.reverse_append, List.reverse_reverse, Text.trim_blank_back blank]
      rw [symbols_inside, symbols_inside, if_pos rfl, if_pos rfl, bare]

end Blanks

section Whole

variable {s t : String} {c d : ManaCost}

theorem read_some_iff : read s = .ok c ↔ symbols? none s.toList = some c.symbols := by
  have bare : symbols? none (Text.trim s.toList) = symbols? none s.toList := by
    obtain ⟨front, back, before, behind, split⟩ := Text.trim_split s.toList
    have last := symbols_front (gap_last behind) (Text.trim s.toList) none
    rw [List.append_nil] at last
    conv => rhs; rw [split, gap_skipped before, last]
  rw [← bare, ← symbols_told s, to_option_some, read]
  cases symbolsFrom s none (Text.trim s.toList) with
  | error e => exact iff_of_false nofun nofun
  | ok ms =>
    constructor
    · intro found
      obtain rfl := Except.ok.inj found
      rfl
    · intro found
      obtain rfl := Except.ok.inj found
      rfl

theorem read_symbols (found : read s = .ok c) : ∀ m ∈ c.symbols, ManaSymbol.read m.name.toList = .ok m := by
  intro m member
  obtain ⟨cs, symbol⟩ := scanned_read (symbols_scanned (read_some_iff.1 found)) m member
  exact ManaSymbol.read_again symbol

theorem read_append (first : read s = .ok c) (second : read t = .ok d) :
    read (s ++ t) = .ok ⟨c.symbols ++ d.symbols⟩ := by
  rw [read_some_iff] at first second ⊢
  rw [String.toList_append, scanned_append (symbols_scanned first), second, Option.map_some]

end Whole

section Colors

theorem colors_from (ms : List ManaSymbol) (start : ColorSet) :
    ms.foldl (fun s m => s.union m.colors) start = start.union (colors ⟨ms⟩) := by
  induction ms generalizing start with
  | nil => exact (ColorSet.union_colorless start).symm
  | cons m rest ih =>
    have whole : colors ⟨m :: rest⟩ = m.colors.union (colors ⟨rest⟩) := by
      rw [colors, List.foldl_cons, ih, ColorSet.colorless_union]
    rw [List.foldl_cons, ih, whole, ColorSet.union_assoc]

theorem colors_append (ms ns : List ManaSymbol) : colors ⟨ms ++ ns⟩ = (colors ⟨ms⟩).union (colors ⟨ns⟩) := by
  rw [colors, List.foldl_append, colors_from ns]
  rfl

end Colors

end ManaCost

end Deckwright
