import Deckwright.Proofs.Filter.Bracketed
import Deckwright.Proofs.Filter.Offset
set_option autoImplicit false

namespace Deckwright

namespace Text

def unescaped : List Char → List Char
  | [] => []
  | [c] => if c = '\\' then [] else [c]
  | c :: d :: s => if c = '\\' then unescaped s else c :: unescaped (d :: s)

def height (s : List Char) : Int := (unescaped s).count '<' - (unescaped s).count '>'

/-- The brackets open with the first character and are all closed by the last, not before. -/
structure Enclosed (s : List Char) : Prop where
  first : s.head? = some '<'
  closed : height s = 0
  still : ∀ p, p <+: s → p ≠ [] → p ≠ s → height p ≠ 0

section Height

variable {s : List Char}

theorem unescaped_pair (c : Char) : unescaped ('\\' :: c :: s) = unescaped s := by simp [unescaped]

theorem unescaped_sign {c : Char} (other : c ≠ '\\') : unescaped (c :: s) = c :: unescaped s := by
  cases s <;> simp [unescaped, other]

theorem marks_unescaped (s : List Char) : (marks s).map Prod.snd = unescaped s := by
  suffices any : ∀ i, (marksFrom false i s).map Prod.snd = unescaped s from any 0
  induction s using escape_induction with
  | nil => exact fun _ => rfl
  | slash =>
    intro i
    rw [marks_slash]
    rfl
  | pair c s ih =>
    intro i
    rw [marks_pair, ih, unescaped_pair]
  | sign c s other ih =>
    intro i
    rw [marks_sign other, List.map_cons, ih, unescaped_sign other]

theorem height_pair (c : Char) : height ('\\' :: c :: s) = height s := by rw [height, unescaped_pair, height]

theorem height_opens : height ('<' :: s) = height s + 1 := by
  rw [height, unescaped_sign (by decide), height]
  simp
  omega

theorem height_closes : height ('>' :: s) = height s - 1 := by
  rw [height, unescaped_sign (by decide), height]
  simp
  omega

theorem height_plain {c : Char} (passed : c ∉ bracketSpecials) : height (c :: s) = height s := by
  simp only [bracketSpecials, List.mem_cons, List.not_mem_nil, or_false, not_or] at passed
  rw [height, unescaped_sign passed.1, height, List.count_cons_of_ne passed.2.1, List.count_cons_of_ne passed.2.2]

theorem Balanced.height_append {t : List Char} (balanced : Balanced t) : height (t ++ s) = height s := by
  induction balanced generalizing s with
  | nil => rfl
  | plain passed _ ih => rw [List.cons_append, height_plain passed, ih]
  | pair c _ ih => rw [List.cons_append, List.cons_append, height_pair, ih]
  | nested _ _ inside rest =>
    rw [List.cons_append, List.append_assoc, List.cons_append, height_opens, inside, height_closes, rest]
    omega

theorem Balanced.height_prefix {t p : List Char} (balanced : Balanced t) (before : p <+: t) : 0 ≤ height p := by
  induction balanced generalizing p with
  | nil =>
    obtain rfl := List.prefix_nil.1 before
    decide
  | plain passed _ ih =>
    rcases List.prefix_cons_iff.1 before with rfl | ⟨q, rfl, later⟩
    · decide
    · rw [height_plain passed]
      exact ih later
  | pair c _ ih =>
    rcases List.prefix_cons_iff.1 before with rfl | ⟨q, rfl, rest⟩
    · decide
    · rcases List.prefix_cons_iff.1 rest with rfl | ⟨q, rfl, later⟩
      · decide
      · rw [height_pair]
        exact ih later
  | @nested inner s balanced _ inside rest =>
    -- A prefix that ends within the nested part has one bracket more open.
    rcases List.prefix_cons_iff.1 before with rfl | ⟨q, rfl, ⟨more, split⟩⟩
    · decide
    · rw [height_opens]
      rcases List.append_eq_append_iff.1 split with ⟨left, same, _⟩ | ⟨right, rfl, same⟩
      · have least := inside ⟨left, same.symm⟩
        omega
      · rw [balanced.height_append]
        rcases right with _ | ⟨c, right⟩
        · decide
        · obtain ⟨rfl, tail⟩ := List.cons.inj same
          have least := rest ⟨more, tail.symm⟩
          rw [height_closes]
          omega

theorem Bracketed.enclosed (bracketed : Bracketed s) : Enclosed s := by
  obtain ⟨inner, balanced, rfl⟩ := bracketed
  refine ⟨rfl, ?_, fun p before some short => ?_⟩
  · rw [height_opens, balanced.height_append]
    rfl
  · rcases List.prefix_cons_iff.1 before with rfl | ⟨q, rfl, rest⟩
    · exact absurd rfl some
    · have inside : q <+: inner := by
        rcases List.prefix_concat_iff.1 rest with same | inside
        · exact absurd (same ▸ rfl) short
        · exact inside
      have least := balanced.height_prefix inside
      rw [height_opens]
      omega

end Height

end Text

namespace GroupMode

variable {word : List Char} {m : GroupMode}

theorem keyword_lower (keyword : ofKeyword? (String.ofList word) = some m) :
    Text.asciiLower word = Text.asciiLower m.keyword.toList := by
  have found := List.find?_some keyword
  rwa [Text.eqAsciiCase, String.toList_ofList, beq_iff_eq] at found

theorem keyword_plain (keyword : ofKeyword? (String.ofList word) = some m) : ∀ c ∈ word, c ∉ Text.bracketSpecials := by
  have letters : (Text.bracketSpecials.all fun c => !(Text.asciiLower m.keyword.toList).contains c.toLower) = true := by
    cases m <;> decide
  intro c member special
  have absent := List.all_eq_true.1 letters c special
  have there : c.toLower ∈ Text.asciiLower m.keyword.toList := by
    rw [← keyword_lower keyword]
    exact List.mem_map_of_mem member
  simp [there] at absent

end GroupMode

open Text (Balanced Bracketed Enclosed height firstWord)

namespace Filter

theorem closing_none {depth : Nat} {s : List Char} (open_ : closing depth s = none) : -(depth : Int) ≤ height s := by
  induction s using Text.scan_induction generalizing depth with
  | nil =>
    have zero : height [] = 0 := rfl
    omega
  | slash =>
    have zero : height ['\\'] = 0 := rfl
    omega
  | pair c s ih =>
    rw [closing_pair] at open_
    rw [Text.height_pair]
    exact ih (Option.map_eq_none_iff.1 open_)
  | opens s ih =>
    rw [closing_open] at open_
    have least := ih (Option.map_eq_none_iff.1 open_)
    rw [Text.height_opens]
    omega
  | closes s ih =>
    cases depth with
    | zero =>
      rw [closing_here] at open_
      cases open_
    | succ depth =>
      rw [closing_close] at open_
      have least := ih (Option.map_eq_none_iff.1 open_)
      rw [Text.height_closes]
      omega
  | plain c s passed ih =>
    rw [closing_plain passed] at open_
    rw [Text.height_plain passed]
    exact ih (Option.map_eq_none_iff.1 open_)

theorem enclosed_body {s : List Char} (enclosed : Enclosed s) : ∃ inner, body s = .ok inner := by
  obtain ⟨first, closed, still⟩ := enclosed
  obtain ⟨t, rfl⟩ : ∃ t, s = '<' :: t := by
    cases s with
    | nil => cases first
    | cons c t => exact ⟨t, by rw [Option.some.inj first]⟩
  rw [body_of_closing]
  cases scan : closing 0 t with
  | none =>
    have least := closing_none scan
    rw [Text.height_opens] at closed
    omega
  | some parts =>
    obtain ⟨front, back⟩ := parts
    obtain ⟨unopened, rfl⟩ := closing_sound scan
    cases unopened with
    | none balanced =>
      have early : height ('<' :: (front ++ ['>'])) = 0 := (Bracketed.enclosed ⟨front, balanced, rfl⟩).closed
      have before : '<' :: (front ++ ['>']) <+: '<' :: (front ++ '>' :: back) := ⟨back, by simp⟩
      have whole : '<' :: (front ++ ['>']) = '<' :: (front ++ '>' :: back) := by
        by_cases same : '<' :: (front ++ ['>']) = '<' :: (front ++ '>' :: back)
        · exact same
        · exact absurd early (still _ before (by simp) same)
      obtain rfl : back = [] := by simpa using whole
      exact ⟨front, rfl⟩

theorem body_bracketed_iff {s : List Char} : (∃ inner, body s = .ok inner) ↔ Bracketed s := by
  constructor
  · rintro ⟨inner, found⟩
    exact ⟨inner, body_sound found⟩
  · rintro ⟨inner, balanced, rfl⟩
    exact ⟨inner, body_bracketed balanced⟩

theorem body_iff {s : List Char} : (∃ inner, body s = .ok inner) ↔ Enclosed s :=
  ⟨fun found => (body_bracketed_iff.1 found).enclosed, enclosed_body⟩

/-- The texts that a reading of s comes to for its groups and leaves. -/
inductive Within (s : List Char) : List Char → Prop where
  | whole : Within s s
  | child {t inner p : List Char} {m : GroupMode} {ps : List (List Char)} (outer : Within s t)
    (opened : body (Text.trim t) = .ok inner) (keyword : GroupMode.ofKeyword? (String.ofList (firstWord inner).1) = some m)
    (split : pieces (firstWord inner).2 = .ok ps) (member : p ∈ ps) : Within s p

theorem spread_bracketed {s : List Char} {ps : List (List Char)} (spread : Spread s ps) : ∀ p ∈ ps, Bracketed p := by
  induction spread with
  | nil => simp
  | blank _ _ ih => exact ih
  | piece bracketed _ ih =>
    intro p member
    rcases List.mem_cons.1 member with rfl | later
    · exact bracketed
    · exact ih p later

theorem child_opened {s p : List Char} {ps : List (List Char)} (split : pieces s = .ok ps) (member : p ∈ ps) :
    ∃ inner, body (Text.trim p) = .ok inner := by
  have bracketed := spread_bracketed (spread_of_pieces split) p member
  rw [Text.bare_trim bracketed.bare]
  exact body_bracketed_iff.2 bracketed

theorem within_opened {s t : List Char} (opened : ∃ inner, body (Text.trim s) = .ok inner) (within : Within s t) :
    ∃ inner, body (Text.trim t) = .ok inner := by
  cases within with
  | whole => exact opened
  | child _ _ _ split member => exact child_opened split member

theorem rest_balanced {inner : List Char} {m : GroupMode} (balanced : Balanced inner)
    (keyword : GroupMode.ofKeyword? (String.ofList (firstWord inner).1) = some m) : Balanced (firstWord inner).2 := by
  rw [← Text.firstWord_append inner] at balanced
  exact balanced.of_append (GroupMode.keyword_plain keyword)

def enclosureFaults : List BracketFault := [.openExpected, .textAfterClose, .unbalanced]

theorem body_fault {s : List Char} {e : BracketFault} (refused : body s = .error e) : e ∈ enclosureFaults := by
  unfold body at refused
  split at refused
  · split at refused
    · cases refused
      decide
    · cases refused
    · cases refused
      decide
  · cases refused
    decide

theorem pieces_fault {s : List Char} {e : BracketFault} (balanced : Balanced s) (refused : pieces s = .error e) :
    ∃ c, e = .between c := by
  unfold pieces at refused
  induction balanced with
  | nil => cases refused
  | @plain c s passed _ ih =>
    simp only [Text.bracketSpecials, List.mem_cons, List.not_mem_nil, or_false, not_or] at passed
    rw [pieces_outside, if_neg passed.2.1] at refused
    split at refused
    · exact ih refused
    · cases refused
      exact ⟨c, rfl⟩
  | pair c _ _ =>
    rw [pieces_outside, if_neg (by decide), if_neg (by decide)] at refused
    cases refused
    exact ⟨_, rfl⟩
  | @nested inner s inside _ _ ih =>
    have piece := pieces_piece (s := s) ⟨inner, inside, rfl⟩
    rw [List.cons_append, List.append_assoc, List.singleton_append] at piece
    rw [piece] at refused
    cases later : piecesFrom none s with
    | error e =>
      rw [later] at refused
      cases refused
      exact ih later
    | ok ps =>
      rw [later] at refused
      cases refused

end Filter

namespace Leaf

open Deckwright.Filter (enclosureFaults)

theorem make_fault {a : Aspect} {m : Mode} {o : Operand} {text : String} {e : BracketFault} :
    make a m o ≠ .error (.bracketed text e) := by
  rw [make, check]
  repeat' split
  all_goals simp [Except.map]

theorem of_content_fault {a : Aspect} {body content : List Char} {text : String} {e : BracketFault}
    (refused : ofContent a body content (.bracketed text) = .error (.bracketed text e)) : e ∉ enclosureFaults := by
  unfold ofContent at refused
  split at refused
  · cases refused
    simp [enclosureFaults]
  · split at refused
    · cases refused
    · split at refused
      · cases refused
      · exact absurd refused make_fault

theorem of_parts_fault {body code : List Char} {content? : Option (List Char)} {text : String} {e : BracketFault}
    (refused : ofParts body code content? (.bracketed text) = .error (.bracketed text e)) : e ∉ enclosureFaults := by
  unfold ofParts at refused
  split at refused
  · cases refused
  · split at refused
    · split at refused
      · exact absurd refused make_fault
      · cases refused
        simp [enclosureFaults]
    · split at refused
      · cases refused
        simp [enclosureFaults]
      · exact of_content_fault refused

theorem of_body_fault {body : List Char} {text : String} {e : BracketFault}
    (refused : ofBody body (.bracketed text) = .error (.bracketed text e)) : e ∉ enclosureFaults := by
  rw [of_body_cut] at refused
  exact of_parts_fault refused

end Leaf

namespace Filter

theorem read_from_fault {text : String} {e : BracketFault} {fuel : Nat} {s : List Char}
    (opened : ∃ inner, body (Text.trim s) = .ok inner) (long : s.length < fuel)
    (refused : readFrom (.bracketed text) fuel s = .error (.bracketed text e)) : e ∉ enclosureFaults := by
  induction fuel generalizing s with
  | zero => exact absurd long (Nat.not_lt_zero _)
  | succ fuel ih =>
    obtain ⟨inner, found⟩ := opened
    rw [readFrom, found] at refused
    dsimp only at refused
    cases keyword : GroupMode.ofKeyword? (String.ofList (firstWord inner).1) with
    | none =>
      rw [keyword] at refused
      cases leaf : Leaf.ofBody inner (.bracketed text) with
      | error fault =>
        rw [leaf] at refused
        cases refused
        exact Leaf.of_body_fault leaf
      | ok l =>
        rw [leaf] at refused
        cases refused
    | some m =>
      rw [keyword] at refused
      dsimp only at refused
      cases split : pieces (firstWord inner).2 with
      | error fault =>
        rw [split] at refused
        cases refused
        obtain ⟨c, rfl⟩ := pieces_fault (rest_balanced (body_sound found).1 keyword) split
        simp [enclosureFaults]
      | ok ps =>
        rw [split] at refused
        cases ps with
        | nil =>
          cases refused
          simp [enclosureFaults]
        | cons p ps =>
          dsimp only at refused
          cases children : (p :: ps).mapM (readFrom (.bracketed text) fuel) with
          | error fault =>
            rw [children] at refused
            cases refused
            obtain ⟨q, member, inside⟩ := error_of_mapM children
            have shorter := piece_shorter found split member
            exact ih (child_opened split member) (by omega) inside
          | ok fs =>
            rw [children] at refused
            dsimp only [ofGroup] at refused
            split at refused
            · cases refused
            · cases refused

theorem read_enclosure_fault {s : List Char} :
    (∃ e ∈ enclosureFaults, read s = .error (.bracketed (String.ofList s) e)) ↔ ¬ Enclosed (Text.trim s) := by
  rw [← body_iff]
  constructor
  · rintro ⟨e, fault, refused⟩ opened
    exact read_from_fault opened (Nat.lt_succ_self _) refused fault
  · intro closed
    cases opened : body (Text.trim s) with
    | ok inner => exact absurd ⟨inner, opened⟩ closed
    | error e =>
      refine ⟨e, body_fault opened, ?_⟩
      rw [read, readFrom, opened]

/-- Reading by offsets and counters never cuts within a character, never counts below zero
    and always comes to an end, and what it says of the brackets it says of the whole: inside
    a text that is enclosed no filter is found open. -/
theorem brackets_strict (s : List Char) :
    (readByOffset s = some (read s) ∧
      ∀ t, (Text.marks t).map Prod.snd = Text.unescaped t ∧ ∀ sign, sign.utf8Size = 1 →
        Text.cutByOffset sign t = some (Text.cutUnescaped sign t) ∧
          Text.splitByOffset sign t = some (Text.splitUnescaped sign t)) ∧
    ((∃ e ∈ enclosureFaults, read s = .error (.bracketed (String.ofList s) e)) ↔ ¬ Enclosed (Text.trim s)) ∧
    (Enclosed (Text.trim s) → ∀ t, Within s t → ∃ inner, body (Text.trim t) = .ok inner ∧
      ∀ m, GroupMode.ofKeyword? (String.ofList (firstWord inner).1) = some m →
        pieces (firstWord inner).2 ≠ .error .unbalanced) := by
  refine ⟨⟨read_by_offset s, fun t => ⟨Text.marks_unescaped t, fun sign single => ?_⟩⟩, read_enclosure_fault,
    fun enclosed t within => ?_⟩
  · exact ⟨Text.cut_by_offset single t, Text.split_by_offset sign t⟩
  · obtain ⟨inner, opened⟩ := within_opened (enclosed_body enclosed) within
    refine ⟨inner, opened, fun m keyword refused => ?_⟩
    obtain ⟨c, fault⟩ := pieces_fault (rest_balanced (body_sound opened).1 keyword) refused
    cases fault

theorem escaped_brackets_strict :
    let s := "<or <n:a \\<> <0> >".toList
    let child := "<n:a \\<>".toList
    Enclosed (Text.trim s) ∧ Within s child ∧ ∃ inner, body (Text.trim child) = .ok inner := by
  intro s child
  have outer : body (Text.trim s) = .ok "or <n:a \\<> <0> ".toList := rfl
  have split : pieces (firstWord "or <n:a \\<> <0> ".toList).2 = .ok [child, "<0>".toList] := rfl
  have within : Within s child := .child .whole outer (show _ = some GroupMode.or from rfl) split (by simp)
  have enclosed := body_iff.1 ⟨_, outer⟩
  obtain ⟨inner, opened, _⟩ := (brackets_strict s).2.2 enclosed child within
  exact ⟨enclosed, within, inner, opened⟩

end Filter

end Deckwright
