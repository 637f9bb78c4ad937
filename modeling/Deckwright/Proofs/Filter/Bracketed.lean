import Deckwright.Proofs.Filter.Bracket
import Deckwright.Proofs.Filter.Operand
set_option autoImplicit false

/- What a reader passes over on its way is text that balances, whatever was escaped in it. -/
namespace Deckwright

open Text (Inline Bare Balanced Bracketed Unbroken)

theorem Mode.written_inline (m : Mode) : Inline m.written :=
  Inline.escape Text.bracket_reversible (by simp [Text.bracketSpecials]) _

theorem Mode.take_written {m : Mode} {s : List Char} (coded : m ≠ .always) (head : s.head? ≠ some '=') :
    take? (m.written ++ s) = some (m, s) := by
  have longer : Text.after? ['='] s = none := by
    cases s with
    | nil => rfl
    | cons c rest => simpa [Text.after?, eq_comm] using head
  cases m with
  | contains c => cases c <;> rfl
  | compare c =>
    cases c with
    | less =>
      simp [take?, Mode.coded, written, code, Comparison.symbol, Text.escape, Text.escapeChar,
        Text.bracketSpecials, Text.after?, longer]
    | more =>
      simp [take?, Mode.coded, written, code, Comparison.symbol, Text.escape, Text.escapeChar,
        Text.bracketSpecials, Text.after?, longer]
    | atMost => rfl
    | equal => rfl
    | atLeast => rfl
    | unequal => rfl
  | missing => rfl
  | variable_ => rfl
  | always => exact absurd rfl coded

namespace Aspect

theorem code_signs (a : Aspect) :
    ∀ c ∈ a.code.toList, Text.isBlank c = false ∧ c ∉ ['\\', '<', '>', ':', '\n', '\r', '\t'] := by
  have all : (a.code.toList.all fun c =>
      !Text.isBlank c && !(['\\', '<', '>', ':', '\n', '\r', '\t'].contains c)) = true := by
    cases a <;> decide
  intro c member
  simpa using List.all_eq_true.1 all c member

theorem code_inline (a : Aspect) : Inline a.code.toList := by
  refine Inline.of_plain fun c member => ?_
  have plain := (code_signs a c member).2
  simp only [List.mem_cons, List.not_mem_nil, or_false, not_or] at plain ⊢
  exact ⟨plain.1, plain.2.1, plain.2.2.1, plain.2.2.2.2.1, plain.2.2.2.2.2⟩

theorem code_read (a : Aspect) : Text.trimmed (String.ofList (Text.unescape a.code.toList)) = a.code := by
  have plain : '\\' ∉ a.code.toList := fun member => (code_signs a _ member).2 (by decide)
  rw [Text.unescape_plain plain, String.ofList_toList]
  exact Text.trimmed_bare (Text.bare_of_all fun c member => (code_signs a c member).1)

theorem of_code (a : Aspect) : ofCode? a.code = some a := by
  cases a <;> rfl

end Aspect

namespace Leaf

def inner (l : Leaf) : List Char :=
  l.aspect.code.toList ++ if l.aspect.kind = .constant then [] else ':' :: l.mode.written ++ l.operand.written

theorem written_bracketed (l : Leaf) : l.written = '<' :: (l.inner ++ ['>']) := by
  simp [written, inner]

theorem Canonical.whole {l : Leaf} (canonical : l.Canonical) : l.operand.blemish? = none :=
  (check_ok.1 canonical.checked).2.2

theorem inner_inline {l : Leaf} (whole : l.operand.blemish? = none) : Inline l.inner := by
  refine (Aspect.code_inline l.aspect).append ?_
  split
  · exact .nil
  · exact Inline.cons (by decide) ((Mode.written_inline l.mode).append (Operand.written_inline whole))

theorem make_checked {l : Leaf} (checked : check l.aspect l.mode l.operand = .ok ()) :
    make l.aspect l.mode l.operand = .ok l := by
  rw [make, checked]
  rfl

theorem constant_parts {l : Leaf} (checked : check l.aspect l.mode l.operand = .ok ())
    (kind : l.aspect.kind = .constant) : l.mode = .always ∧ l.operand = .none := by
  obtain ⟨allowed, suits, _⟩ := check_ok.1 checked
  refine ⟨by simpa [Aspect.allows, kind] using allowed, ?_⟩
  unfold Operand.suits at suits
  rw [kind] at suits
  revert suits
  cases l.operand <;> simp

theorem coded_mode {l : Leaf} (checked : check l.aspect l.mode l.operand = .ok ())
    (kind : l.aspect.kind ≠ .constant) : l.mode ≠ .always := by
  obtain ⟨allowed, _, _⟩ := check_ok.1 checked
  intro always
  unfold Aspect.allows at allowed
  rw [always] at allowed
  revert allowed kind
  cases l.aspect.kind <;> simp

theorem read_inner {l : Leaf} (canonical : l.Canonical) (fault : BracketFault → FilterFault) :
    ofBody l.inner fault = .ok l := by
  obtain ⟨allowed, suits, whole⟩ := check_ok.1 canonical.checked
  have made := make_checked canonical.checked
  by_cases kind : l.aspect.kind = .constant
  · obtain ⟨mode, operand⟩ := constant_parts canonical.checked kind
    rw [mode, operand] at made
    have shape : l.inner = l.aspect.code.toList := by simp [inner, kind]
    have cut : Text.cutUnescaped ':' l.aspect.code.toList = none := by
      revert kind
      cases l.aspect <;> decide
    rw [ofBody, shape, cut]
    dsimp only
    rw [Aspect.code_read, Aspect.of_code]
    dsimp only
    rw [if_pos kind]
    exact made
  · have closed : Text.Sealed [':'] l.aspect.code.toList :=
      .of_plain (fun member => (Aspect.code_signs _ _ member).2 (by decide)) fun c member stop =>
        (Aspect.code_signs _ c member).2 (by simp [List.mem_singleton.1 stop])
    have cut := Text.cut_sealed closed (show ':' ∈ [':'] by decide) (by decide) (l.mode.written ++ l.operand.written)
    have content : ofContent l.aspect l.inner (l.mode.written ++ l.operand.written) fault = .ok l := by
      rw [ofContent, Mode.take_written (coded_mode canonical.checked kind) (Operand.written_head whole)]
      dsimp only
      rw [allowed, if_neg (by decide), Operand.read_written suits whole canonical.settled]
      exact made
    have shape : l.inner = l.aspect.code.toList ++ ':' :: (l.mode.written ++ l.operand.written) := by
      simp [inner, kind]
    rw [ofBody, show Text.cutUnescaped ':' l.inner = _ from shape ▸ cut]
    dsimp only
    rw [Aspect.code_read, Aspect.of_code]
    dsimp only
    rw [if_neg kind]
    exact content

end Leaf

theorem Text.Bracketed.bare {s : List Char} (bracketed : Bracketed s) : Bare s := by
  obtain ⟨inner, _, rfl⟩ := bracketed
  constructor
  · intro c first
    obtain rfl := Option.some.inj first
    decide
  · intro c last
    rw [← List.cons_append, List.getLast?_append] at last
    obtain rfl : '>' = c := by simpa using last
    decide

namespace GroupMode

theorem of_keyword (m : GroupMode) : ofKeyword? m.keyword = some m := by
  cases m <;> rfl

theorem keyword_inline (m : GroupMode) : Inline m.keyword.toList ∧ ∀ c ∈ m.keyword.toList, Text.isBlank c = false := by
  have all : (m.keyword.toList.all fun c =>
      !Text.isBlank c && !(['\\', '<', '>', '\n', '\r', '\t'].contains c)) = true := by
    cases m <;> decide
  refine ⟨Inline.of_plain fun c member => ?_, fun c member => ?_⟩
  · have plain := List.all_eq_true.1 all c member
    simp only [Bool.and_eq_true, Bool.not_eq_true', List.contains_eq_mem, decide_eq_false_iff_not] at plain
    exact plain.2
  · have plain := List.all_eq_true.1 all c member
    simp only [Bool.and_eq_true, Bool.not_eq_true'] at plain
    exact plain.1

theorem of_keyword_colon {s : List Char} (colon : ':' ∈ s) : ofKeyword? (String.ofList s) = none := by
  have lower : ':' ∈ Text.asciiLower s := List.mem_map.2 ⟨':', colon, by decide⟩
  have other (m : GroupMode) : Text.eqAsciiCase (String.ofList s) m.keyword = false := by
    rw [Text.eqAsciiCase, String.toList_ofList, beq_eq_false_iff_ne]
    intro same
    rw [same] at lower
    revert lower
    cases m <;> decide
  simp [ofKeyword?, all, other]

end GroupMode

theorem Leaf.no_keyword (l : Leaf) :
    GroupMode.ofKeyword? (String.ofList (Text.firstWord l.inner).1) = none := by
  by_cases kind : l.aspect.kind = .constant
  · have shape : l.inner = l.aspect.code.toList := by simp [inner, kind]
    rw [shape]
    revert kind
    cases l.aspect <;> decide
  · have word : ∀ c ∈ l.aspect.code.toList, (!Text.isBlank c) = true := fun c member => by
      simp [(Aspect.code_signs _ c member).1]
    have shape : l.inner = l.aspect.code.toList ++ ':' :: (l.mode.written ++ l.operand.written) := by
      simp [inner, kind]
    apply GroupMode.of_keyword_colon
    rw [shape, Text.firstWord, List.takeWhile_append_of_pos word, List.takeWhile_cons_of_pos (by decide)]
    simp

namespace Filter

def spaced (fs : List Filter) : List Char := (fs.map written).flatMap (' ' :: ·)

theorem written_all_spaced (fs : List Filter) : writtenAll fs = spaced fs ++ ['>'] := by
  induction fs with
  | nil => rfl
  | cons f rest ih => simp [writtenAll, spaced, ih]

theorem written_group (m : GroupMode) (fs : List Filter) :
    written (.group m fs) = '<' :: (m.keyword.toList ++ spaced fs ++ ['>']) := by
  simp [written, written_all_spaced]

theorem spaced_balanced {fs : List Filter} (bracketed : ∀ f ∈ fs, Bracketed f.written) : Balanced (spaced fs) := by
  induction fs with
  | nil => exact .nil
  | cons f rest ih =>
    obtain ⟨inner, balanced, shape⟩ := bracketed f (by simp)
    have later := ih fun g member => bracketed g (List.mem_cons_of_mem f member)
    have first : Balanced f.written := shape ▸ .nested balanced .nil
    exact .plain (by decide) (first.append later)

theorem written_bracketed {f : Filter} (canonical : f.Canonical) : Bracketed f.written := by
  induction canonical with
  | @leaf l canonical =>
    refine ⟨l.inner, .of_sealed (Leaf.inner_inline canonical.whole).closed, ?_⟩
    rw [written, Leaf.written_bracketed]
  | @group m fs _ _ ih =>
    refine ⟨m.keyword.toList ++ spaced fs, ?_, by rw [written_group]⟩
    exact (Balanced.of_sealed (GroupMode.keyword_inline m).1.closed).append (spaced_balanced ih)

theorem spaced_unbroken {fs : List Filter} (unbroken : ∀ f ∈ fs, Unbroken f.written) : Unbroken (spaced fs) := by
  induction fs with
  | nil => exact Text.unbroken_nil
  | cons f rest ih =>
    have later := ih fun g member => unbroken g (List.mem_cons_of_mem f member)
    exact Text.unbroken_cons.2 ⟨by decide, Text.unbroken_append.2 ⟨unbroken f (by simp), later⟩⟩

theorem enclosed_unbroken {s : List Char} (unbroken : Unbroken s) : Unbroken ('<' :: (s ++ ['>'])) :=
  Text.unbroken_cons.2 ⟨by decide, Text.unbroken_append.2 ⟨unbroken, by simp [Unbroken]⟩⟩

theorem written_unbroken {f : Filter} (canonical : f.Canonical) : Unbroken f.written := by
  induction canonical with
  | @leaf l canonical =>
    rw [written, Leaf.written_bracketed]
    exact enclosed_unbroken (Leaf.inner_inline canonical.whole).unbroken
  | @group m fs _ _ ih =>
    rw [written_group]
    exact enclosed_unbroken (Text.unbroken_append.2 ⟨(GroupMode.keyword_inline m).1.unbroken, spaced_unbroken ih⟩)

theorem written_length {f : Filter} {fs : List Filter} (member : f ∈ fs) : f.written.length < (spaced fs).length := by
  induction fs with
  | nil => exact absurd member List.not_mem_nil
  | cons g rest ih =>
    have shape : spaced (g :: rest) = ' ' :: (g.written ++ spaced rest) := by simp [spaced]
    rw [shape, List.length_cons, List.length_append]
    rcases List.mem_cons.1 member with rfl | later
    · omega
    · have less := ih later
      omega

theorem first_word_group {fs : List Filter} (m : GroupMode) (some : fs ≠ []) :
    Text.firstWord (m.keyword.toList ++ spaced fs) = (m.keyword.toList, spaced fs) := by
  have word : ∀ c ∈ m.keyword.toList, (!Text.isBlank c) = true := fun c member => by
    simp [(GroupMode.keyword_inline m).2 c member]
  obtain ⟨f, rest, rfl⟩ := List.exists_cons_of_ne_nil some
  have blank : Text.isBlank ' ' = true := by decide
  rw [Text.firstWord, List.takeWhile_append_of_pos word, List.dropWhile_append_of_pos word]
  simp [spaced, blank]

/-- A filter is read from its text. Any bound on the nesting will do that is not below the
    length of the text. -/
theorem read_from_written {f : Filter} (canonical : f.Canonical) (fault : BracketFault → FilterFault) {fuel : Nat}
    (long : f.written.length ≤ fuel) : readFrom fault fuel f.written = .ok f := by
  have bare := (written_bracketed canonical).bare
  induction canonical generalizing fuel with
  | @leaf l canonical =>
    have balanced := Balanced.of_sealed (Leaf.inner_inline canonical.whole).closed
    rw [written, Leaf.written_bracketed] at *
    obtain ⟨fuel, rfl⟩ : ∃ more, fuel = more + 1 := ⟨fuel - 1, by simp at long; omega⟩
    rw [readFrom, Text.bare_trim bare, body_bracketed balanced]
    dsimp only
    rw [Leaf.no_keyword, Leaf.read_inner canonical]
    rfl
  | @group m fs some all ih =>
    have bracketed : ∀ p ∈ fs.map written, Bracketed p := by
      intro p member
      obtain ⟨f, inside, rfl⟩ := List.mem_map.1 member
      exact written_bracketed (all f inside)
    have balanced : Balanced (m.keyword.toList ++ spaced fs) :=
      (Balanced.of_sealed (GroupMode.keyword_inline m).1.closed).append
        (spaced_balanced fun f inside => written_bracketed (all f inside))
    rw [written_group] at *
    obtain ⟨fuel, rfl⟩ : ∃ more, fuel = more + 1 := ⟨fuel - 1, by simp at long; omega⟩
    have children : (fs.map written).mapM (readFrom fault fuel) = .ok fs := by
      refine mapM_written fun f inside => ih f inside ?_ (written_bracketed (all f inside)).bare
      have less := written_length inside
      simp only [List.length_cons, List.length_append] at long
      omega
    have split : pieces (spaced fs) = .ok (fs.map written) := pieces_bracketed bracketed
    rw [readFrom, Text.bare_trim bare, body_bracketed balanced]
    dsimp only
    rw [first_word_group m some]
    dsimp only
    rw [String.ofList_toList, GroupMode.of_keyword, split]
    obtain ⟨f, rest, rfl⟩ := List.exists_cons_of_ne_nil some
    rw [List.map_cons] at children ⊢
    dsimp only
    rw [children]
    rfl

theorem read_written {f : Filter} (canonical : f.Canonical) : read f.written = .ok f :=
  read_from_written canonical _ (Nat.le_succ _)

/-- Whatever filter a caller holds, its text is one line and is read as the same filter. -/
theorem text_round_trip {f : Filter} (made : f.Made) :
    ofText? f.toText = .ok f ∧ ∀ c ∈ f.toText.toList, c ≠ '\n' ∧ c ≠ '\r' ∧ c ≠ '\t' := by
  have canonical := made_canonical made
  rw [toText, ofText?, String.toList_ofList]
  exact ⟨read_written canonical, written_unbroken canonical⟩

theorem druids_text_round_trip :
    let druids := Filter.leaf ⟨.subtype, .contains .noneOf, Operand.ofOptions [" <Elf>, \x7bDruid\x7d ", "a\n\\"]⟩
    let f := druids.and (.group .or [.leaf (Leaf.standard .power), ofLegality .exactly [" Old School"] true])
    ofText? f.toText = .ok f ∧ ∀ c ∈ f.toText.toList, c ≠ '\n' ∧ c ≠ '\r' ∧ c ≠ '\t' := by
  intro druids f
  have chosen : ofOptions .subtype .noneOf [" <Elf>, \x7bDruid\x7d ", "a\n\\"] = .ok druids := rfl
  have grouped (fs : List Filter) (some : fs.isEmpty = false) : ofGroup .or fs = .ok (.group .or fs) := by
    simp [ofGroup, some]
  refine text_round_trip (.combine .and (.options chosen) (.group ?_ (grouped _ rfl)))
  intro g member
  rcases List.mem_cons.1 member with rfl | member
  · exact .standard .power
  · exact List.mem_singleton.1 member ▸ .legality .exactly _ true

end Filter

end Deckwright
