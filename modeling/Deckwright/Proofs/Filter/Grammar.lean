import Mathlib.Data.List.Basic
import Deckwright.Proofs.Filter.Depth
import Deckwright.Proofs.Text.Search
set_option autoImplicit false

/- The grammar has three rules more than the one that writing follows: filters of a group may stand side by
   side, brackets that match may stand in a leaf as they are, and blanks may stand at the end of a group. -/
namespace Deckwright

open Text (Balanced Bracketed Blank Sealed firstWord)

structure Leniency where
  adjacent : Bool
  brackets : Bool
  tail : Bool

namespace Leniency

def strict : Leniency := ⟨false, false, false⟩

def reader : Leniency := ⟨true, true, true⟩

end Leniency

namespace Aspect

-- The codes are taken in any case, with blanks around them and escapes in them.
def Named (code : List Char) (a : Aspect) : Prop :=
  ofCode? (Text.trimmed (String.ofList (Text.unescape code))) = some a

end Aspect

/-- The text between the brackets of a leaf: its code, a colon, its mode and its operand. The
    constants are a code alone. -/
inductive Leaf.Spelled : List Char → Leaf → Prop where
  | constant {code : List Char} {a : Aspect} (whole : Text.cutUnescaped ':' code = none) (named : a.Named code)
    (kind : a.kind = .constant) : Spelled code ⟨a, .always, .none⟩
  | nothing {code gap : List Char} {a : Aspect} (closed : Sealed [':'] code) (named : a.Named code)
    (kind : a.kind = .constant) (blank : Blank gap) : Spelled (code ++ ':' :: gap) ⟨a, .always, .none⟩
  | coded {code rest : List Char} {a : Aspect} {m : Mode} {o : Operand} (closed : Sealed [':'] code)
    (named : a.Named code) (kind : a.kind ≠ .constant) (mode : Mode.take? (m.written ++ rest) = some (m, rest))
    (operand : Operand.readWritten a m rest = .ok o) (checked : check a m o = .ok ()) :
    Spelled (code ++ ':' :: (m.written ++ rest)) ⟨a, m, o⟩

namespace Filter

structure Part where
  gap : List Char
  text : List Char
  filter : Filter

def Part.spelling (p : Part) : List Char := p.gap ++ p.text

/-- The texts of a filter. The keyword of a group has a gap behind it in any case. -/
inductive Derives (k : Leniency) : List Char → Filter → Prop where
  | leaf {inner : List Char} {l : Leaf} (balanced : Balanced inner) (closed : k.brackets = false → Sealed ['<', '>'] inner)
    (spelled : l.Spelled inner) : Derives k ('<' :: (inner ++ ['>'])) (.leaf l)
  | group {word tail : List Char} {m : GroupMode} {parts : List Part}
    (keyword : GroupMode.ofKeyword? (String.ofList word) = some m) (some : parts ≠ [])
    (first : ∀ p ∈ parts.head?, p.gap ≠ []) (apart : k.adjacent = false → ∀ p ∈ parts, p.gap ≠ [])
    (end_ : k.tail = false → tail = []) (blank : Blank tail) (gaps : ∀ p ∈ parts, Blank p.gap)
    (each : ∀ p ∈ parts, Derives k p.text p.filter) :
    Derives k ('<' :: (word ++ (parts.flatMap Part.spelling ++ tail) ++ ['>'])) (.group m (parts.map Part.filter))

end Filter

theorem Mode.take_sound {s rest : List Char} {m : Mode} (taken : take? s = some (m, rest)) : m.written ++ rest = s := by
  obtain ⟨n, _, found⟩ := List.exists_of_findSome?_eq_some taken
  obtain ⟨later, after, same⟩ := Option.map_eq_some_iff.1 found
  cases same
  exact Text.after_some.1 after

section Keyword

theorem blank_lower {c : Char} (blank : Text.isBlank c = true) : c.toLower = c := by
  refine dif_neg ?_
  rintro ⟨least, most⟩
  have first : 65 ≤ c.toNat := least
  have last : c.toNat ≤ 90 := most
  simp only [Text.isBlank, Bool.or_eq_true, Bool.and_eq_true, decide_eq_true_eq, beq_iff_eq] at blank
  omega

theorem blank_plain {c : Char} (blank : Text.isBlank c = true) : c ∉ Text.bracketSpecials := by
  have signs : (Text.bracketSpecials.all fun d => !Text.isBlank d) = true := by decide
  intro special
  have sign := List.all_eq_true.1 signs c special
  simp [blank] at sign

theorem keyword_solid {word : List Char} {m : GroupMode}
    (keyword : GroupMode.ofKeyword? (String.ofList word) = some m) : ∀ c ∈ word, Text.isBlank c = false := by
  have letters : ((Text.asciiLower m.keyword.toList).all fun c => !Text.isBlank c) = true := by
    cases m <;> decide
  intro c member
  by_cases blank : Text.isBlank c = true
  · have there : c.toLower ∈ Text.asciiLower m.keyword.toList := by
      rw [← GroupMode.keyword_lower keyword]
      exact List.mem_map_of_mem member
    rw [blank_lower blank] at there
    simpa using List.all_eq_true.1 letters c there
  · simpa using blank

theorem first_word_trim {s : List Char} (head : ∀ c ∈ s.head?, Text.isBlank c = false) :
    (firstWord (Text.trim s)).1 = (firstWord s).1 := by
  obtain ⟨gap, blank, split⟩ := Text.trim_end_split s
  have none : gap.takeWhile (fun c => !Text.isBlank c) = [] := by
    cases gap with
    | nil => rfl
    | cons c gap => simp [blank c (by simp)]
  have word := congrArg (fun t => (firstWord t).1) split
  rw [Text.trim, Text.trim_start_head head]
  refine Eq.trans ?_ word.symm
  simp only [firstWord, List.takeWhile_append, none, List.append_nil]
  split
  · rename_i whole
    exact (List.takeWhile_prefix _).eq_of_length whole
  · rfl

theorem first_word_unescape {code : List Char} (plain : '\\' ∉ (firstWord code).1) :
    (firstWord (Text.unescape code)).1 = (firstWord code).1 := by
  induction code with
  | nil => rfl
  | cons c code ih =>
    have slash : Text.isBlank '\\' = false := by decide
    have other : c ≠ '\\' := by
      rintro rfl
      simp [firstWord, slash] at plain
    rw [Text.unescape_sign other]
    cases blank : Text.isBlank c with
    | true => simp [firstWord, blank]
    | false =>
      simp only [firstWord, blank, Bool.not_false, List.takeWhile_cons_of_pos, List.mem_cons, not_or] at plain ih ⊢
      rw [ih plain.2]

theorem code_unblank (a : Aspect) : ∀ c ∈ Text.asciiLower a.code.toList, Text.isBlank c = false := by
  have all : ((Text.asciiLower a.code.toList).all fun c => !Text.isBlank c) = true := by
    cases a <;> decide
  intro c member
  simpa using List.all_eq_true.1 all c member

theorem code_no_keyword (a : Aspect) (m : GroupMode) :
    Text.asciiLower a.code.toList ≠ Text.asciiLower m.keyword.toList := by
  cases m <;> cases a <;> decide

theorem Aspect.Named.lower {code : List Char} {a : Aspect} (named : a.Named code) :
    Text.asciiLower a.code.toList = Text.asciiLower (Text.trim (Text.unescape code)) := by
  unfold Named ofCode? at named
  have found := List.find?_some named
  rwa [Text.eqAsciiCase, Text.trimmed, String.toList_ofList, String.toList_ofList, beq_iff_eq] at found

theorem named_word {code : List Char} {a : Aspect} (named : a.Named code) :
    GroupMode.ofKeyword? (String.ofList (firstWord code).1) = none := by
  cases keyword : GroupMode.ofKeyword? (String.ofList (firstWord code).1) with
  | none => rfl
  | some m =>
    have plain := GroupMode.keyword_plain keyword
    have word := first_word_unescape fun slash => plain _ slash (by decide)
    have lower := GroupMode.keyword_lower keyword
    have read := named.lower
    have head : ∀ c ∈ (Text.unescape code).head?, Text.isBlank c = false := by
      intro c first
      by_cases blank : Text.isBlank c = true
      · obtain ⟨rest, shape⟩ : ∃ rest, Text.unescape code = c :: rest := List.head?_eq_some_iff.1 first
        rw [← word, shape, firstWord, List.takeWhile_cons_of_neg (by simp [blank])] at lower
        cases m <;> cases lower
      · simpa using blank
    -- A code has no blanks in it, so none begins with a keyword and a blank.
    have solid : ∀ c ∈ Text.trim (Text.unescape code), Text.isBlank c = false := by
      intro c member
      by_cases blank : Text.isBlank c = true
      · have there : c.toLower ∈ Text.asciiLower a.code.toList := by
          rw [read]
          exact List.mem_map_of_mem member
        rw [blank_lower blank] at there
        exact code_unblank a c there
      · simpa using blank
    have whole : (firstWord (Text.trim (Text.unescape code))).1 = Text.trim (Text.unescape code) :=
      List.takeWhile_eq_self_iff.2 fun c member => by simp [solid c member]
    rw [← whole, first_word_trim head, word, lower] at read
    exact absurd read (code_no_keyword a m)

end Keyword

namespace Leaf

variable {body : List Char} {l : Leaf} {fault : BracketFault → FilterFault}

theorem constant_made {a : Aspect} (kind : a.kind = .constant) : make a .always .none = .ok ⟨a, .always, .none⟩ := by
  revert kind
  cases a <;> first | (intro; rfl) | (intro kind; cases kind)

theorem of_body_spelled (read : ofBody body fault = .ok l) : l.Spelled body := by
  rw [of_body_cut] at read
  cases cut : Text.cutUnescaped ':' body with
  | none =>
    rw [cut] at read
    dsimp only [ofCut, ofParts, Option.map_none, Option.getD_none] at read
    split at read
    · cases read
    · rename_i a named
      split at read
      · rename_i kind
        rw [if_pos (by decide), constant_made kind] at read
        cases read
        exact .constant cut named kind
      · cases read
  | some parts =>
    obtain ⟨code, content⟩ := parts
    obtain rfl := Text.cut_sound cut
    have closed := Text.cut_front cut
    rw [cut] at read
    dsimp only [ofCut, ofParts, Option.map_some, Option.getD_some] at read
    split at read
    · cases read
    · rename_i a named
      split at read
      · rename_i kind
        split at read
        · rename_i nothing
          rw [constant_made kind] at read
          cases read
          exact .nothing closed named kind (Text.trim_blank.1 (List.isEmpty_iff.1 nothing))
        · cases read
      · rename_i kind
        unfold ofContent at read
        split at read
        · cases read
        · rename_i m rest taken
          split at read
          · cases read
          · split at read
            · cases read
            · rename_i o operand
              obtain ⟨checked, rfl⟩ := make_ok read
              obtain rfl := Mode.take_sound taken
              exact .coded closed named kind taken operand checked

theorem spelled_of_body (spelled : l.Spelled body) : ofBody body fault = .ok l := by
  rw [of_body_cut]
  cases spelled with
  | @constant _ a whole named kind =>
    rw [whole, ofCut, Option.map_none, Option.map_none, Option.getD_none, ofParts, named]
    dsimp only
    rw [if_pos kind, if_pos (by decide), constant_made kind]
  | @nothing code gap a closed named kind blank =>
    rw [Text.cut_sealed closed (by simp) (by decide), ofCut, Option.map_some, Option.map_some, Option.getD_some, ofParts,
      named]
    dsimp only
    rw [if_pos kind, Option.getD_some, Text.trim_blank.2 blank, if_pos (by decide), constant_made kind]
  | @coded code rest a m o closed named kind mode operand checked =>
    have allowed := (check_ok.1 checked).1
    rw [Text.cut_sealed closed (by simp) (by decide), ofCut, Option.map_some, Option.map_some, Option.getD_some, ofParts,
      named]
    dsimp only
    rw [if_neg kind, ofContent, mode]
    dsimp only
    rw [allowed, if_neg (by decide), operand]
    dsimp only
    rw [make, checked]
    rfl

theorem spelled_word (spelled : l.Spelled body) : GroupMode.ofKeyword? (String.ofList (firstWord body).1) = none := by
  have behind {code rest : List Char} {a : Aspect} (named : a.Named code) :
      GroupMode.ofKeyword? (String.ofList (firstWord (code ++ ':' :: rest)).1) = none := by
    have colon : Text.isBlank ':' = false := by decide
    rw [firstWord, List.takeWhile_append]
    split
    · exact GroupMode.of_keyword_colon (by simp [colon])
    · exact named_word named
  cases spelled with
  | constant _ named _ => exact named_word named
  | nothing _ named _ _ => exact behind named
  | coded _ named _ _ _ _ => exact behind named

end Leaf

namespace Filter

def Apart (s : List Char) : Prop :=
  ∀ front back, s = front ++ '<' :: back → (∃ ps, pieces front = .ok ps) → ∃ c ∈ front.getLast?, Text.isBlank c = true

section Parts

variable {k : Leniency} {s tail : List Char} {f : Filter} {parts : List Part}

theorem Spread.gap {gap : List Char} {ps : List (List Char)} (blank : Blank gap) (rest : Spread s ps) :
    Spread (gap ++ s) ps := by
  induction gap with
  | nil => exact rest
  | cons c gap ih => exact .blank (blank c (by simp)) (ih fun d member => blank d (List.mem_cons_of_mem c member))

theorem parts_spread (gaps : ∀ p ∈ parts, Blank p.gap) (texts : ∀ p ∈ parts, Bracketed p.text) (blank : Blank tail) :
    Spread (parts.flatMap Part.spelling ++ tail) (parts.map Part.text) := by
  induction parts with
  | nil =>
    have end_ := Spread.gap blank .nil
    rwa [List.append_nil] at end_
  | cons p parts ih =>
    have later := ih (fun q member => gaps q (List.mem_cons_of_mem p member))
      fun q member => texts q (List.mem_cons_of_mem p member)
    rw [List.flatMap_cons, Part.spelling, List.append_assoc, List.append_assoc]
    exact .gap (gaps p (by simp)) (.piece (texts p (by simp)) later)

theorem spread_parts {ps : List (List Char)} {read : List Char → Except FilterFault Filter} {fs : List Filter}
    (spread : Spread s ps) (each : ps.mapM read = .ok fs) :
    ∃ (parts : List Part) (tail : List Char), s = parts.flatMap Part.spelling ++ tail ∧ parts.map Part.text = ps ∧ parts.map Part.filter = fs ∧
      (∀ p ∈ parts, Blank p.gap ∧ read p.text = .ok p.filter) ∧ Blank tail := by
  induction spread generalizing fs with
  | nil =>
    cases each
    exact ⟨[], [], rfl, rfl, rfl, by simp, by simp [Blank]⟩
  | @blank c s ps blank _ ih =>
    obtain ⟨parts, tail, rfl, texts, filters, all, last⟩ := ih each
    -- The blank goes to the gap of the next part, or to the tail if there is none.
    cases parts with
    | nil => exact ⟨[], c :: tail, rfl, texts, filters, by simp, List.forall_mem_cons.2 ⟨blank, last⟩⟩
    | cons p parts =>
      obtain ⟨⟨gap, first⟩, later⟩ := List.forall_mem_cons.1 all
      have wider : Blank (c :: p.gap) := List.forall_mem_cons.2 ⟨blank, gap⟩
      exact ⟨{ p with gap := c :: p.gap } :: parts, tail, rfl, texts, filters,
        List.forall_mem_cons.2 ⟨⟨wider, first⟩, later⟩, last⟩
  | @piece p s ps _ _ ih =>
    rw [List.mapM_cons] at each
    cases first : read p with
    | error e =>
      rw [first] at each
      cases each
    | ok f =>
      cases rest : ps.mapM read with
      | error e =>
        rw [first, rest] at each
        cases each
      | ok gs =>
        rw [first, rest] at each
        cases each
        obtain ⟨parts, tail, rfl, rfl, rfl, all, last⟩ := ih rest
        have new : Blank ([] : List Char) ∧ read p = .ok f := ⟨by simp [Blank], first⟩
        exact ⟨⟨[], p, f⟩ :: parts, tail, by simp [Part.spelling], rfl, rfl, List.forall_mem_cons.2 ⟨new, all⟩, last⟩

theorem spread_balanced {ps : List (List Char)} (spread : Spread s ps) : Balanced s := by
  induction spread with
  | nil => exact .nil
  | blank blank _ ih => exact .plain (blank_plain blank) ih
  | piece bracketed _ ih =>
    obtain ⟨inner, balanced, rfl⟩ := bracketed
    exact (Balanced.nested balanced .nil).append ih

theorem Derives.bracketed (derives : Derives k s f) : Bracketed s := by
  induction derives with
  | @leaf inner _ balanced _ _ => exact ⟨inner, balanced, rfl⟩
  | group keyword _ _ _ _ blank gaps _ ih =>
    have rest := spread_balanced (parts_spread gaps ih blank)
    exact ⟨_, (Balanced.of_plain (GroupMode.keyword_plain keyword)).append rest, rfl⟩

theorem parts_last (some : parts ≠ []) (texts : ∀ p ∈ parts, Bracketed p.text) :
    (parts.flatMap Part.spelling).getLast? = Option.some '>' := by
  obtain ⟨front, p, rfl⟩ : ∃ front p, parts = front ++ [p] := ⟨_, _, (List.dropLast_concat_getLast some).symm⟩
  obtain ⟨inner, _, text⟩ := texts p (by simp)
  rw [List.flatMap_append, List.flatMap_singleton, Part.spelling, text, List.getLast?_append_of_ne_nil _ (by simp),
    List.getLast?_append_of_ne_nil _ (by simp), ← List.cons_append, List.getLast?_concat]

theorem tail_iff (some : parts ≠ []) (texts : ∀ p ∈ parts, Bracketed p.text) (blank : Blank tail) :
    (∀ c ∈ (parts.flatMap Part.spelling ++ tail).getLast?, Text.isBlank c = false) ↔ tail = [] := by
  constructor
  · intro last
    by_contra more
    rw [List.getLast?_append_of_ne_nil _ more] at last
    have sign := last _ (List.getLast?_eq_some_getLast more)
    rw [blank _ (List.getLast_mem more)] at sign
    cases sign
  · rintro rfl c last
    rw [List.append_nil, parts_last some texts] at last
    obtain rfl := Option.some.inj last
    decide

theorem bracketed_unique {p q t : List Char} (left : Bracketed p) (right : Bracketed q) (same : p ++ s = q ++ t) :
    p = q ∧ s = t := by
  have scan {inner t : List Char} (balanced : Balanced inner) : closing 0 (inner ++ '>' :: t) = some (inner, t) := by
    rw [closing_balanced balanced, closing_here]
    simp [closingAfter]
  obtain ⟨inner, balanced, rfl⟩ := left
  obtain ⟨other, otherBalanced, rfl⟩ := right
  have behind : inner ++ '>' :: s = other ++ '>' :: t := by simpa using same
  have both := scan (t := s) balanced
  rw [behind, scan otherBalanced] at both
  cases both
  exact ⟨rfl, rfl⟩

theorem pieces_gap {gap : List Char} (blank : Blank gap) : pieces (gap ++ s) = pieces s := by
  induction gap with
  | nil => rfl
  | cons c gap ih =>
    rw [List.cons_append, pieces, pieces_blank (blank c (by simp))]
    exact ih fun d member => blank d (List.mem_cons_of_mem c member)

theorem blank_last {gap : List Char} (blank : Blank gap) (some : gap ≠ []) : ∃ c ∈ gap.getLast?, Text.isBlank c = true :=
  ⟨_, List.getLast?_eq_some_getLast some, blank _ (List.getLast_mem some)⟩

theorem apart_of_gaps (gaps : ∀ p ∈ parts, Blank p.gap) (texts : ∀ p ∈ parts, Bracketed p.text) (blank : Blank tail)
    (wide : ∀ p ∈ parts, p.gap ≠ []) : Apart (parts.flatMap Part.spelling ++ tail) := by
  induction parts with
  | nil =>
    intro front back split _
    have sign := blank '<' (by rw [show tail = front ++ '<' :: back from split]; simp)
    cases sign
  | cons p parts ih =>
    rintro front back split ⟨ps, found⟩
    have gap := blank_last (gaps p (by simp)) (wide p (by simp))
    have later := ih (fun q member => gaps q (List.mem_cons_of_mem p member))
      (fun q member => texts q (List.mem_cons_of_mem p member)) fun q member => wide q (List.mem_cons_of_mem p member)
    rw [List.flatMap_cons, Part.spelling, List.append_assoc, List.append_assoc] at split
    rcases List.append_eq_append_iff.1 split with ⟨more, rfl, behind⟩ | ⟨inside, within, behind⟩
    · by_cases none : more = []
      · rwa [none, List.append_nil]
      · obtain ⟨q, t, qs, whole, bracketed, rest⟩ : ∃ q t qs, more = q ++ t ∧ Bracketed q ∧ Spread t qs := by
          rw [pieces_gap (gaps p (by simp))] at found
          cases spread_of_pieces found with
          | nil => exact absurd rfl none
          | blank sign _ =>
            obtain ⟨inner, _, text⟩ := texts p (by simp)
            rw [text] at behind
            obtain ⟨rfl, _⟩ := List.cons.inj behind
            cases sign
          | piece bracketed rest => exact ⟨_, _, _, rfl, bracketed, rest⟩
        rw [whole, List.append_assoc] at behind
        obtain ⟨_, next⟩ := bracketed_unique (texts p (by simp)) bracketed behind
        obtain ⟨c, last, sign⟩ := later t back next ⟨qs, pieces_spread rest⟩
        have some : t ≠ [] := by
          rintro rfl
          cases last
        refine ⟨c, ?_, sign⟩
        rwa [whole, ← List.append_assoc, List.getLast?_append_of_ne_nil _ some]
    · cases inside with
      | nil =>
        rw [List.append_nil] at within
        rwa [← within]
      | cons c inside =>
        obtain ⟨rfl, _⟩ := List.cons.inj behind
        have sign := gaps p (by simp) '<' (by rw [within]; simp)
        cases sign

theorem gaps_of_apart (gaps : ∀ p ∈ parts, Blank p.gap) (texts : ∀ p ∈ parts, Bracketed p.text)
    (apart : Apart (parts.flatMap Part.spelling ++ tail)) : ∀ p ∈ parts, p.gap ≠ [] := by
  intro p member none
  obtain ⟨before, after, rfl⟩ := List.append_of_mem member
  obtain ⟨inner, _, text⟩ := texts p member
  have spread : Spread (before.flatMap Part.spelling ++ []) (before.map Part.text) :=
    parts_spread (fun q inside => gaps q (by simp [inside])) (fun q inside => texts q (by simp [inside])) (by simp [Blank])
  rw [List.append_nil] at spread
  have split : (before ++ p :: after).flatMap Part.spelling ++ tail =
      before.flatMap Part.spelling ++ '<' :: (inner ++ '>' :: (after.flatMap Part.spelling ++ tail)) := by
    simp [Part.spelling, none, text]
  obtain ⟨c, last, blank⟩ := apart _ _ split ⟨_, pieces_spread spread⟩
  by_cases empty : before = []
  · subst empty
    cases last
  · rw [parts_last empty fun q inside => texts q (by simp [inside])] at last
    obtain rfl := Option.some.inj last
    cases blank

end Parts

theorem first_gap {inner : List Char} {p : Part} {parts : List Part} {tail : List Char}
    (rest : (firstWord inner).2 = (p :: parts).flatMap Part.spelling ++ tail) (bracketed : Bracketed p.text) : p.gap ≠ [] := by
  intro none
  obtain ⟨inside, _, text⟩ := bracketed
  have stop := List.head?_dropWhile_not (fun c => !Text.isBlank c) inner
  rw [show inner.dropWhile (fun c => !Text.isBlank c) = (firstWord inner).2 from rfl, rest, List.flatMap_cons,
    Part.spelling, none, text] at stop
  revert stop
  simp [Text.isBlank]

theorem first_word_keyword {word tail : List Char} {m : GroupMode} {parts : List Part}
    (keyword : GroupMode.ofKeyword? (String.ofList word) = some m) (some : parts ≠ [])
    (first : ∀ p ∈ parts.head?, p.gap ≠ []) (gaps : ∀ p ∈ parts, Blank p.gap) :
    firstWord (word ++ (parts.flatMap Part.spelling ++ tail)) = (word, parts.flatMap Part.spelling ++ tail) := by
  have solid : ∀ c ∈ word, (!Text.isBlank c) = true := fun c member => by simp [keyword_solid keyword c member]
  obtain ⟨p, rest, rfl⟩ := List.exists_cons_of_ne_nil some
  obtain ⟨c, gap, shape⟩ := List.exists_cons_of_ne_nil (first p rfl)
  have blank : Text.isBlank c = true := gaps p (by simp) c (by simp [shape])
  rw [firstWord, List.takeWhile_append_of_pos solid, List.dropWhile_append_of_pos solid, List.flatMap_cons,
    Part.spelling, shape]
  simp [blank]

end Filter

namespace Leniency

open Deckwright.Filter (Apart Within body)

-- What the rules that are strict ask of the text between two brackets: a leaf has its brackets
-- escaped, each filter of a group has a blank in front, and no blank is at the end.
structure Holds (k : Leniency) (inner : List Char) : Prop where
  closed : k.brackets = false → GroupMode.ofKeyword? (String.ofList (firstWord inner).1) = none → Sealed ['<', '>'] inner
  apart : k.adjacent = false → ∀ m, GroupMode.ofKeyword? (String.ofList (firstWord inner).1) = some m →
    Apart (firstWord inner).2
  ended : k.tail = false → ∀ m, GroupMode.ofKeyword? (String.ofList (firstWord inner).1) = some m →
    ∀ c ∈ (firstWord inner).2.getLast?, Text.isBlank c = false

def HoldsWithin (k : Leniency) (s : List Char) : Prop :=
  ∀ t inner, Within s t → body (Text.trim t) = .ok inner → k.Holds inner

theorem reader_holds (s : List Char) : reader.HoldsWithin s := fun _ _ _ _ => ⟨nofun, nofun, nofun⟩

end Leniency

namespace Filter

section Read

variable {k : Leniency} {s t inner : List Char} {f : Filter} {fault : BracketFault → FilterFault} {fuel : Nat}

theorem within_trans {u : List Char} (outer : Within s t) (within : Within t u) : Within s u := by
  induction within with
  | whole => exact outer
  | child _ opened keyword split member ih => exact .child ih opened keyword split member

theorem derives_of_read (read : readFrom fault fuel s = .ok f) (holds : k.HoldsWithin s) : Derives k (Text.trim s) f := by
  induction fuel generalizing s f with
  | zero => cases read
  | succ fuel ih =>
    obtain ⟨inner, opened, ⟨l, leaf, rfl⟩ | ⟨m, ps, fs, keyword, split, children, some, rfl⟩⟩ := read_from_ok read
    · obtain ⟨balanced, whole⟩ := body_sound opened
      have spelled := Leaf.of_body_spelled leaf
      rw [whole]
      exact .leaf balanced (fun strict => (holds s inner .whole opened).closed strict (Leaf.spelled_word spelled)) spelled
    · have here := holds s inner .whole opened
      have spread := spread_of_pieces split
      obtain ⟨parts, tail, rest, rfl, rfl, each, blank⟩ := spread_parts spread children
      have bracketed : ∀ p ∈ parts, Bracketed p.text := fun p member =>
        spread_bracketed spread p.text (List.mem_map_of_mem member)
      have first : ∀ p ∈ parts.head?, p.gap ≠ [] := by
        intro p head
        obtain ⟨later, rfl⟩ := List.head?_eq_some_iff.1 head
        exact first_gap rest (bracketed p (by simp))
      have texts : ∀ p ∈ parts, Derives k p.text p.filter := by
        intro p member
        have inside : Within s p.text := .child .whole opened keyword split (List.mem_map_of_mem member)
        have trimmed := ih (each p member).2 fun t inner within => holds t inner (within_trans inside within)
        rwa [Text.bare_trim (bracketed p member).bare] at trimmed
      have gaps : ∀ p ∈ parts, Blank p.gap := fun p member => (each p member).1
      have some : parts ≠ [] := fun none => some (by rw [none]; rfl)
      have apart := fun strict => here.apart strict m keyword
      have ended := fun strict => here.ended strict m keyword
      rw [rest] at apart ended
      rw [(body_sound opened).2, ← Text.firstWord_append inner, rest]
      exact .group keyword some first (fun strict => gaps_of_apart gaps bracketed (apart strict))
        (fun strict => (tail_iff some bracketed blank).1 (ended strict)) blank gaps texts

theorem read_of_derives (derives : Derives k s f) (long : s.length ≤ fuel) : readFrom fault fuel s = .ok f := by
  have bare := derives.bracketed.bare
  induction derives generalizing fuel with
  | @leaf inner l balanced _ spelled =>
    obtain ⟨fuel, rfl⟩ : ∃ more, fuel = more + 1 := ⟨fuel - 1, by simp at long; omega⟩
    rw [readFrom, Text.bare_trim bare, body_bracketed balanced]
    dsimp only
    rw [Leaf.spelled_word spelled, Leaf.spelled_of_body spelled]
    rfl
  | @group word tail m parts keyword some first _ _ blank gaps each ih =>
    have bracketed : ∀ p ∈ parts, Bracketed p.text := fun p member => (each p member).bracketed
    have spread := parts_spread gaps bracketed blank
    have balanced := (Balanced.of_plain (GroupMode.keyword_plain keyword)).append (spread_balanced spread)
    have children : (parts.map Part.text).mapM (readFrom fault (fuel - 1)) = .ok (parts.map Part.filter) := by
      refine mapM_map fun p member => ih p member ?_ (bracketed p member).bare
      have less := spread_length spread p.text (List.mem_map_of_mem member)
      simp only [List.length_cons, List.length_append] at long
      simp only [List.length_append] at less
      omega
    obtain ⟨fuel, rfl⟩ : ∃ more, fuel = more + 1 := ⟨fuel - 1, by simp at long; omega⟩
    rw [readFrom, Text.bare_trim bare, body_bracketed balanced]
    dsimp only
    rw [first_word_keyword keyword some first gaps]
    dsimp only
    obtain ⟨p, rest, rfl⟩ := List.exists_cons_of_ne_nil some
    rw [keyword, pieces_spread spread, List.map_cons]
    rw [Nat.add_sub_cancel, List.map_cons] at children
    dsimp only
    rw [children]
    rfl

theorem read_from_trim (fault : BracketFault → FilterFault) (fuel : Nat) (s : List Char) :
    readFrom fault fuel (Text.trim s) = readFrom fault fuel s := by
  cases fuel with
  | zero => rfl
  | succ fuel => rw [readFrom, readFrom, Text.bare_trim (Text.trim_bare s)]

theorem derives_body (derives : Derives k t f) (opened : body t = .ok inner) :
    k.Holds inner ∧ ∀ m ps, GroupMode.ofKeyword? (String.ofList (firstWord inner).1) = some m →
      pieces (firstWord inner).2 = .ok ps → ∀ p ∈ ps, ∃ g, Derives k p g := by
  cases derives with
  | leaf balanced closed spelled =>
    rw [body_bracketed balanced] at opened
    cases opened
    have word := Leaf.spelled_word spelled
    refine ⟨⟨fun strict _ => closed strict, ?_, ?_⟩, ?_⟩
    · intro _ m keyword
      rw [word] at keyword
      cases keyword
    · intro _ m keyword
      rw [word] at keyword
      cases keyword
    · intro m ps keyword
      rw [word] at keyword
      cases keyword
  | @group word tail m parts keyword some first apart ended blank gaps each =>
    have bracketed : ∀ p ∈ parts, Bracketed p.text := fun p member => (each p member).bracketed
    have spread := parts_spread gaps bracketed blank
    have balanced := (Balanced.of_plain (GroupMode.keyword_plain keyword)).append (spread_balanced spread)
    rw [body_bracketed balanced] at opened
    cases opened
    have cut : firstWord (word ++ (parts.flatMap Part.spelling ++ tail)) = (word, parts.flatMap Part.spelling ++ tail) :=
      first_word_keyword keyword some first gaps
    refine ⟨⟨?_, ?_, ?_⟩, ?_⟩
    · intro _ none
      rw [cut, keyword] at none
      cases none
    · intro strict _ _
      rw [cut]
      exact apart_of_gaps gaps bracketed blank (apart strict)
    · intro strict _ _
      rw [cut]
      exact (tail_iff some bracketed blank).2 (ended strict)
    · intro _ ps _ split p member
      rw [cut, pieces_spread spread] at split
      cases split
      obtain ⟨q, inside, rfl⟩ := List.mem_map.1 member
      exact ⟨q.filter, each q inside⟩

theorem derives_within (derives : Derives k (Text.trim s) f) (within : Within s t) : ∃ g, Derives k (Text.trim t) g := by
  induction within with
  | whole => exact ⟨f, derives⟩
  | child _ opened keyword split member ih =>
    obtain ⟨g, outer⟩ := ih
    obtain ⟨h, inside⟩ := (derives_body outer opened).2 _ _ keyword split _ member
    rw [← Text.bare_trim inside.bracketed.bare] at inside
    exact ⟨h, inside⟩

/-- A grammar derives a filter from a text just when it is read from it and the text has what
    the strict rules of the grammar ask for. The reader's own asks for nothing; the one of the
    written form asks that no filters stand side by side, that brackets in a leaf are escaped
    and that no blanks end a group. -/
theorem read_grammar (s : List Char) (f : Filter) :
    (read s = .ok f ↔ Derives .reader (Text.trim s) f) ∧
      ∀ k : Leniency, Derives k (Text.trim s) f ↔ read s = .ok f ∧ k.HoldsWithin s := by
  have every (k : Leniency) : Derives k (Text.trim s) f ↔ read s = .ok f ∧ k.HoldsWithin s := by
    constructor
    · intro derives
      have short := trim_length s
      refine ⟨?_, fun t inner within opened => ?_⟩
      · rw [read, ← read_from_trim]
        exact read_of_derives derives (by omega)
      · obtain ⟨g, inside⟩ := derives_within derives within
        exact (derives_body inside opened).1
    · rintro ⟨read, holds⟩
      exact derives_of_read read holds
  exact ⟨(every .reader).trans (and_iff_left (Leniency.reader_holds s)) |>.symm, every⟩

theorem side_by_side_read :
    let s := "<AND <*><0>>".toList
    (∃ f, read s = .ok f) ∧ ∀ f, ¬ Derives .strict (Text.trim s) f := by
  intro s
  refine ⟨⟨.group .and [.leaf ⟨.anyCard, .always, .none⟩, .leaf ⟨.noCard, .always, .none⟩], rfl⟩, fun f derives => ?_⟩
  obtain ⟨_, holds⟩ := ((read_grammar s f).2 .strict).1 derives
  have here := holds s "AND <*><0>".toList .whole rfl
  obtain ⟨c, last, blank⟩ := here.apart rfl .and rfl " <*>".toList "0>".toList rfl ⟨["<*>".toList], rfl⟩
  obtain rfl : '>' = c := Option.some.inj last
  cases blank

end Read

end Filter

end Deckwright
