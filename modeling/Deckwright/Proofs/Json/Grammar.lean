import Deckwright.Proofs.Json.Number
import Deckwright.Proofs.Json.Spelling
set_option autoImplicit false

namespace Deckwright

-- A number that its JSON text is read as. Reading rounds twice, so that some are read as a neighbour.
def Binary64.ReadsBack (x : Binary64) : Prop := Json.decode Json.Read.binary64 x.pointedText = .ok x

instance (x : Binary64) : Decidable x.ReadsBack :=
  decidable_of_iff ((Json.decode Json.Read.binary64 x.pointedText).toOption = some x) <| by
    rw [Binary64.ReadsBack]
    cases Json.decode Json.Read.binary64 x.pointedText <;> simp [Except.toOption]

namespace Json

mutual

def drafted : Json → Draft
  | .null => .null
  | .bool b => .bool b
  | .integer n => .integer n
  | .real x => .real x
  | .text s => .text s
  | .list items => .list (draftedItems items) true
  | .record fields => .record (draftedFields fields) true

def draftedItems : List Json → List Draft
  | [] => []
  | j :: rest => drafted j :: draftedItems rest

def draftedFields : List (String × Json) → List (Option String × Draft)
  | [] => []
  | (k, j) :: rest => (some k, drafted j) :: draftedFields rest

end

def Gap (s : List Char) : Prop := ∀ c ∈ s, isSpace c = true

theorem gap_nil : Gap [] := by simp [Gap]

theorem skip_gap {gap : List Char} (space : Gap gap) (s : List Char) : skipSpace (gap ++ s) = skipSpace s :=
  List.dropWhile_append_of_pos space

theorem skip_sign {c : Char} (sign : isSpace c = false) (s : List Char) : skipSpace (c :: s) = c :: s := by
  rw [skipSpace, List.dropWhile_cons, sign, if_neg (by decide)]

theorem skip_to {gap : List Char} (space : Gap gap) {c : Char} (sign : isSpace c = false) (s : List Char) :
    skipSpace (gap ++ c :: s) = c :: s := by
  rw [skip_gap space, skip_sign sign]

theorem skip_skip (s : List Char) : skipSpace (skipSpace s) = skipSpace s := by
  induction s with
  | nil => rfl
  | cons c s ih =>
    cases sign : isSpace c with
    | false => rw [skip_sign sign, skip_sign sign]
    | true =>
      have gap : Gap [c] := by simpa [Gap] using sign
      rw [← List.singleton_append, skip_gap gap, ih]

theorem draft_skip (fuel : Nat) (s : List Char) : draftFrom fuel (skipSpace s) = draftFrom fuel s := by
  cases fuel with
  | zero => rw [draftFrom, draftFrom]
  | succ fuel => rw [draftFrom, draftFrom, skip_skip]

theorem items_skip (fuel : Nat) (s : List Char) : itemsFrom fuel (skipSpace s) = itemsFrom fuel s := by
  cases fuel with
  | zero => rw [itemsFrom, itemsFrom]
  | succ fuel => rw [itemsFrom, itemsFrom, draft_skip]

theorem fields_skip (fuel : Nat) (s : List Char) : fieldsFrom fuel (skipSpace s) = fieldsFrom fuel s := by
  cases fuel with
  | zero => rw [fieldsFrom, fieldsFrom]
  | succ fuel => rw [fieldsFrom, fieldsFrom, skip_skip]

def Plain (c : Char) : Prop := isSpace c = false ∧ c ≠ '[' ∧ c ≠ '{' ∧ c ≠ ']'

theorem draft_scalar {s rest gap : List Char} {d : Draft} (head : ∃ c t, s = c :: t ∧ Plain c)
    (read : scalarDraft (s ++ rest) = some (d, rest)) (space : Gap gap) (fuel : Nat) :
    draftFrom (fuel + 1) (gap ++ (s ++ rest)) = (d, some rest) := by
  obtain ⟨c, t, rfl, sign, list, record, _⟩ := head
  rw [List.cons_append] at read ⊢
  rw [draftFrom, skip_to space sign]
  split
  · rename_i same
    exact absurd (List.cons.inj same).1 list
  · rename_i same
    exact absurd (List.cons.inj same).1 record
  · rw [read]

theorem digit_plain {c : Char} (digit : Text.isAsciiDigit c = true) : Plain c := by
  have other (d : Char) : Text.isAsciiDigit d = false → c ≠ d := Text.digit_ne digit
  refine ⟨?_, other _ (by decide), other _ (by decide), other _ (by decide)⟩
  simp [isSpace, other ' ' (by decide), other '\n' (by decide), other '\t' (by decide), other '\r' (by decide)]

theorem number_head {whole : List Char} (lead : Lead whole) (negative : Bool) (s : List Char) :
    ∃ c t, (if negative then ['-'] else []) ++ (whole ++ s) = c :: t ∧ Plain c := by
  cases negative with
  | true => exact ⟨'-', _, rfl, by simp [Plain, isSpace]⟩
  | false =>
    obtain ⟨d, ds, rfl⟩ := List.exists_cons_of_ne_nil lead.some
    exact ⟨d, _, rfl, digit_plain (lead.digits d (by simp))⟩

theorem draft_octets (s : List Char) {d : Draft}
    (read : draftFrom (2 * (spelled s).length + 2) (spelled s) = (d, some [])) : draft (Text.toOctets s) = (d, true) := by
  have signs : (Text.toOctets s).map (fun b => Char.ofNat b.toNat) = spelled s := rfl
  rw [draft, signs, read]
  rfl

theorem decode_octets {α : Type} {s : List Char} {d : Draft} (whole : draft (Text.toOctets s) = (d, true))
    (read : Reader α) : decodeOctets read (Text.toOctets s) = read levelLimit d := by
  rw [decodeOctets, whole]
  dsimp only
  cases read levelLimit d <;> rfl

theorem pointed_spelled {x : Binary64} (finite : x.isFinite = true) : spelled x.pointedText = x.pointedText := by
  obtain ⟨whole, fraction, exponent, pointed, text⟩ := pointed_text finite
  refine spelled_ascii fun c member => ?_
  rw [text] at member
  rcases List.mem_append.1 member with sign | member
  · unfold Binary64.signText at sign
    split at sign
    · rw [List.mem_singleton.1 sign]
      decide
    · cases sign
  · exact pointed_ascii pointed c member

theorem real_draft {x : Binary64} (finite : x.isFinite = true) (back : x.ReadsBack) {rest : List Char}
    (calm : Calm rest) : scalarDraft (x.pointedText ++ rest) = some (.real x, rest) := by
  obtain ⟨whole, fraction, exponent, pointed, text⟩ := pointed_text finite
  have read {more : List Char} (calm : Calm more) : scalarDraft (x.pointedText ++ more) =
      some (decimalDraft x.negative whole (fraction.getD []) ((exponent.map exponentValue).getD 0), more) := by
    rw [text, List.append_assoc, ← pointed_draft pointed calm x.negative, pointedWriting, List.append_assoc]
    exact scalar_number pointed.lead _ _
  have head : ∃ c t, x.pointedText = c :: t ∧ Plain c := by
    rw [text]
    exact number_head pointed.lead _ _
  have alone := draft_scalar head (read calm_nil) gap_nil (2 * x.pointedText.length + 1)
  rw [List.nil_append, List.append_nil, ← pointed_spelled finite] at alone
  rw [Binary64.ReadsBack, decode, decode_octets (draft_octets _ alone), decimalDraft] at back
  rw [read calm, decimalDraft]
  dsimp only at back ⊢
  unfold realDraft at back ⊢
  split at back
  · obtain rfl := Except.ok.inj back
    rfl
  · cases back

inductive Word : Json → List Char → Prop where
  | null : Word .null ['n', 'u', 'l', 'l']
  | yes : Word (.bool true) ['t', 'r', 'u', 'e']
  | no : Word (.bool false) ['f', 'a', 'l', 's', 'e']
  | integer {n : Int} (least : -0x8000000000000000 ≤ n) (most : n ≤ largestWord) : Word (.integer n) (integerText n)
  | real {x : Binary64} (finite : x.isFinite = true) (back : x.ReadsBack) : Word (.real x) x.pointedText
  | text (s : String) : Word (.text s) ('"' :: (spelled (s.toList.flatMap textChar) ++ ['"']))

theorem word_draft {j : Json} {s rest : List Char} (word : Word j s) (calm : Calm rest) :
    scalarDraft (s ++ rest) = some (drafted j, rest) := by
  cases word with
  | null => rfl
  | yes => rfl
  | no => rfl
  | integer least most => exact integer_draft least most calm
  | real finite back => exact real_draft finite back calm
  | text s =>
    obtain ⟨ps, read, whole⟩ := quoted_pieces s
    have draft : textDraft ps = .text s := by
      unfold textDraft
      rw [whole]
    rw [List.cons_append, List.append_assoc, List.singleton_append, scalarDraft, read, Option.map_some]
    dsimp only
    rw [draft]
    rfl

theorem word_head {j : Json} {s : List Char} (word : Word j s) : ∃ c t, s = c :: t ∧ Plain c := by
  cases word with
  | @integer n least most =>
    rw [integer_signed]
    exact number_head (lead_nat _) _ _
  | real finite back =>
    obtain ⟨whole, fraction, exponent, pointed, text⟩ := pointed_text finite
    rw [text]
    exact number_head pointed.lead _ _
  | _ => exact ⟨_, _, rfl, by simp [Plain, isSpace]⟩

def member (key : String) (beforeColon behindColon value : List Char) : List Char :=
  '"' :: (spelled (key.toList.flatMap textChar) ++ '"' :: (beforeColon ++ ':' :: (behindColon ++ value)))

mutual

/-- The texts of a value, its signs spaced in any way. -/
inductive TextOf : Json → List Char → Prop where
  | word {j : Json} {s : List Char} (word : Word j s) : TextOf j s
  | emptyList {gap : List Char} (space : Gap gap) : TextOf (.list []) ('[' :: (gap ++ [']']))
  | list {items : List Json} {s : List Char} (inner : ItemsText items s) : TextOf (.list items) ('[' :: s)
  | emptyRecord {gap : List Char} (space : Gap gap) : TextOf (.record []) ('{' :: (gap ++ ['}']))
  | record {fields : List (String × Json)} {s : List Char} (inner : FieldsText fields s) :
    TextOf (.record fields) ('{' :: s)

inductive ItemsText : List Json → List Char → Prop where
  | last {j : Json} {s before behind : List Char} (space : Gap before ∧ Gap behind) (item : TextOf j s) :
    ItemsText [j] (before ++ (s ++ (behind ++ [']'])))
  | more {j : Json} {items : List Json} {s t before behind : List Char} (space : Gap before ∧ Gap behind)
    (item : TextOf j s) (rest : ItemsText items t) : ItemsText (j :: items) (before ++ (s ++ (behind ++ ',' :: t)))

inductive FieldsText : List (String × Json) → List Char → Prop where
  | last {key : String} {j : Json} {s before beforeColon behindColon behind : List Char}
    (space : Gap before ∧ Gap beforeColon ∧ Gap behindColon ∧ Gap behind) (value : TextOf j s) :
    FieldsText [(key, j)] (before ++ member key beforeColon behindColon (s ++ (behind ++ ['}'])))
  | more {key : String} {j : Json} {fields : List (String × Json)} {s t before beforeColon behindColon behind : List Char}
    (space : Gap before ∧ Gap beforeColon ∧ Gap behindColon ∧ Gap behind) (value : TextOf j s)
    (rest : FieldsText fields t) :
    FieldsText ((key, j) :: fields) (before ++ member key beforeColon behindColon (s ++ (behind ++ ',' :: t)))

end

theorem text_head {j : Json} {s : List Char} (text : TextOf j s) :
    ∃ c t, s = c :: t ∧ isSpace c = false ∧ c ≠ ']' := by
  cases text with
  | word word =>
    obtain ⟨c, t, shape, sign, _, _, other⟩ := word_head word
    exact ⟨c, t, shape, sign, other⟩
  | _ => exact ⟨_, _, rfl, by decide, by decide⟩

theorem items_head {items : List Json} {s : List Char} (text : ItemsText items s) (rest : List Char) :
    ∃ c t, skipSpace (s ++ rest) = c :: t ∧ c ≠ ']' := by
  cases text with
  | last space item =>
    obtain ⟨c, t, rfl, sign, other⟩ := text_head item
    exact ⟨c, _, by rw [List.append_assoc, List.append_assoc, List.cons_append, skip_to space.1 sign], other⟩
  | more space item _ =>
    obtain ⟨c, t, rfl, sign, other⟩ := text_head item
    exact ⟨c, _, by rw [List.append_assoc, List.append_assoc, List.cons_append, skip_to space.1 sign], other⟩

theorem fields_head {fields : List (String × Json)} {s : List Char} (text : FieldsText fields s) (rest : List Char) :
    ∃ t, skipSpace (s ++ rest) = '"' :: t := by
  cases text with
  | last space _ => exact ⟨_, by rw [List.append_assoc, member, List.cons_append, skip_to space.1 (by decide)]⟩
  | more space _ _ => exact ⟨_, by rw [List.append_assoc, member, List.cons_append, skip_to space.1 (by decide)]⟩

theorem calm_sign {gap : List Char} (space : Gap gap) {c : Char}
    (away : Text.isAsciiDigit c = false ∧ c ≠ '.' ∧ c ≠ 'e' ∧ c ≠ 'E') (s : List Char) : Calm (gap ++ c :: s) := by
  cases gap with
  | nil => exact calm_cons away
  | cons d gap =>
    have blank := space d (by simp)
    refine calm_cons ?_
    simp only [isSpace, Bool.or_eq_true, decide_eq_true_eq] at blank
    rcases blank with ((rfl | rfl) | rfl) | rfl <;> decide

def TextsRead (fuel : Nat) : Prop :=
  ∀ {j : Json} {s gap rest : List Char}, TextOf j s → 2 * s.length ≤ fuel → Gap gap → Calm rest →
    draftFrom fuel (gap ++ (s ++ rest)) = (drafted j, some rest)

def ItemsRead (fuel : Nat) : Prop :=
  ∀ {items : List Json} {s : List Char}, ItemsText items s → 2 * s.length + 1 ≤ fuel → ∀ rest,
    itemsFrom fuel (s ++ rest) = (draftedItems items, some rest)

def FieldsRead (fuel : Nat) : Prop :=
  ∀ {fields : List (String × Json)} {s : List Char}, FieldsText fields s → 2 * s.length + 1 ≤ fuel → ∀ rest,
    fieldsFrom fuel (s ++ rest) = (draftedFields fields, some rest)

theorem draft_list {gap : List Char} (space : Gap gap) (fuel : Nat) (s : List Char) :
    draftFrom (fuel + 1) (gap ++ '[' :: s) = match skipSpace s with
      | ']' :: rest => (.list [] true, some rest)
      | s => (.list (itemsFrom fuel s).1 (itemsFrom fuel s).2.isSome, (itemsFrom fuel s).2) := by
  rw [draftFrom, skip_to space (by decide)]
  rfl

theorem draft_record {gap : List Char} (space : Gap gap) (fuel : Nat) (s : List Char) :
    draftFrom (fuel + 1) (gap ++ '{' :: s) = match skipSpace s with
      | '}' :: rest => (.record [] true, some rest)
      | s => (.record (fieldsFrom fuel s).1 (fieldsFrom fuel s).2.isSome, (fieldsFrom fuel s).2) := by
  rw [draftFrom, skip_to space (by decide)]
  rfl

theorem texts_step {fuel : Nat} (items : ItemsRead fuel) (fields : FieldsRead fuel) : TextsRead (fuel + 1) := by
  intro j s gap rest text enough space calm
  cases text with
  | word word => exact draft_scalar (word_head word) (word_draft word calm) space fuel
  | emptyList inner =>
    rw [List.cons_append, List.append_assoc, draft_list space, List.singleton_append, skip_to inner (by decide)]
    rfl
  | list inner =>
    rw [List.length_cons] at enough
    obtain ⟨c, t, first, other⟩ := items_head inner rest
    have read := items inner (by omega) rest
    rw [← items_skip, first] at read
    rw [List.cons_append, draft_list space, first]
    split
    · rename_i same
      exact absurd (List.cons.inj same).1 other
    · rw [read]
      rfl
  | emptyRecord inner =>
    rw [List.cons_append, List.append_assoc, draft_record space, List.singleton_append, skip_to inner (by decide)]
    rfl
  | record inner =>
    rw [List.length_cons] at enough
    obtain ⟨t, first⟩ := fields_head inner rest
    have read := fields inner (by omega) rest
    rw [← fields_skip, first] at read
    rw [List.cons_append, draft_record space, first]
    change (Draft.record (fieldsFrom fuel ('"' :: t)).1 _, _) = _
    rw [read]
    rfl

theorem items_step {fuel : Nat} (texts : TextsRead fuel) (items : ItemsRead fuel) : ItemsRead (fuel + 1) := by
  intro all s text enough rest
  cases text with
  | last space item =>
    simp only [List.length_append, List.length_cons] at enough
    simp only [List.append_assoc, List.cons_append, List.nil_append]
    rw [itemsFrom, texts item (by omega) space.1 (calm_sign space.2 (by decide) rest)]
    dsimp only
    rw [skip_to space.2 (by decide)]
    rfl
  | @more j others s t before behind space item left =>
    simp only [List.length_append, List.length_cons] at enough
    simp only [List.append_assoc, List.cons_append]
    rw [itemsFrom, texts item (by omega) space.1 (calm_sign space.2 (by decide) _)]
    dsimp only
    rw [skip_to space.2 (by decide)]
    change (drafted j :: (itemsFrom fuel (t ++ rest)).1, (itemsFrom fuel (t ++ rest)).2) = _
    rw [items left (by omega)]
    rfl

def fieldBehind (fuel : Nat) (key : Option String) (s : List Char) :
    List (Option String × Draft) × Option (List Char) :=
  match draftFrom fuel s with
  | (d, none) => ([(key, d)], none)
  | (d, some s) =>
    match skipSpace s with
    | '}' :: s => ([(key, d)], some s)
    | ',' :: s => ((key, d) :: (fieldsFrom fuel s).1, (fieldsFrom fuel s).2)
    | _ => ([(key, d)], none)

theorem fields_quote {before : List Char} (space : Gap before) (fuel : Nat) (s : List Char) :
    fieldsFrom (fuel + 1) (before ++ '"' :: s) = match pieces s with
      | none => ([], none)
      | some (ps, s) =>
        match skipSpace s with
        | ':' :: s => fieldBehind fuel (stringOf? ps) s
        | _ => ([(stringOf? ps, .broken)], none) := by
  rw [fieldsFrom, skip_to space (by decide)]
  rfl

theorem fields_member {before beforeColon : List Char} (space : Gap before) (colon : Gap beforeColon) (fuel : Nat)
    (key : String) (behindColon value : List Char) :
    fieldsFrom (fuel + 1) (before ++ member key beforeColon behindColon value) =
      fieldBehind fuel (some key) (behindColon ++ value) := by
  obtain ⟨ps, read, whole⟩ := quoted_pieces key
  rw [member, fields_quote space, read]
  dsimp only
  rw [skip_to colon (by decide), whole]
  rfl

theorem fields_step {fuel : Nat} (texts : TextsRead fuel) (fields : FieldsRead fuel) : FieldsRead (fuel + 1) := by
  intro all s text enough rest
  have around (key : String) (before beforeColon behindColon value : List Char) :
      before ++ member key beforeColon behindColon value ++ rest =
        before ++ member key beforeColon behindColon (value ++ rest) := by
    simp [member]
  cases text with
  | @last key j s before beforeColon behindColon behind space value =>
    simp only [member, List.length_append, List.length_cons] at enough
    rw [around, fields_member space.1 space.2.1, fieldBehind]
    simp only [List.append_assoc, List.cons_append, List.nil_append]
    rw [texts value (by omega) space.2.2.1 (calm_sign space.2.2.2 (by decide) rest)]
    dsimp only
    rw [skip_to space.2.2.2 (by decide)]
    rfl
  | @more key j others s t before beforeColon behindColon behind space value left =>
    simp only [member, List.length_append, List.length_cons] at enough
    rw [around, fields_member space.1 space.2.1, fieldBehind]
    simp only [List.append_assoc, List.cons_append]
    rw [texts value (by omega) space.2.2.1 (calm_sign space.2.2.2 (by decide) _)]
    dsimp only
    rw [skip_to space.2.2.2 (by decide)]
    change ((some key, drafted j) :: (fieldsFrom fuel (t ++ rest)).1, (fieldsFrom fuel (t ++ rest)).2) = _
    rw [fields left (by omega)]
    rfl

theorem all_read (fuel : Nat) : TextsRead fuel ∧ ItemsRead fuel ∧ FieldsRead fuel := by
  induction fuel with
  | zero =>
    refine ⟨fun text enough => ?_, fun text enough => ?_, fun text enough => ?_⟩
    · obtain ⟨c, t, rfl, _⟩ := text_head text
      simp at enough
    · omega
    · omega
  | succ fuel ih =>
    obtain ⟨texts, items, fields⟩ := ih
    exact ⟨texts_step items fields, items_step texts items, fields_step texts fields⟩

/-- Every text of a value is read as that value, to its end. -/
theorem draft_text {j : Json} {s : List Char} (text : TextOf j (spelled s)) : draft (Text.toOctets s) = (drafted j, true) := by
  have read := (all_read (2 * (spelled s).length + 2)).1 text (by omega) gap_nil calm_nil
  rw [List.nil_append, List.append_nil] at read
  exact draft_octets s read

end Json

end Deckwright
