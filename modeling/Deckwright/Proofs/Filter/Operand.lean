import Deckwright.Proofs.Filter.Canonical
import Deckwright.Proofs.Text.Escape
set_option autoImplicit false

namespace Deckwright

open Text (Inline Bare Unbroken)

namespace Binary64

theorem sign_blank {c : Char} (sign : IsSign c) : Text.isBlank c = false := by
  rcases sign with digit | rfl | rfl
  · exact Text.digit_not_blank digit
  · decide
  · decide

theorem sign_plain {c : Char} (sign : IsSign c) : c ∉ ['\\', '<', '>', '\n', '\r', '\t', '='] := by
  rcases sign with digit | rfl | rfl
  · intro member
    simp only [List.mem_cons, List.not_mem_nil, or_false] at member
    rcases member with rfl | rfl | rfl | rfl | rfl | rfl | rfl <;> revert digit <;> decide
  · decide
  · decide

end Binary64

namespace Operand

section Sets

variable {values : List String} (bare : ∀ v ∈ values, Bare v.toList ∧ v.isEmpty = false)

def joined (values : List String) : List Char :=
  Text.joinWith [','] (values.map fun v => Text.escape Text.elementSpecials v.toList)

theorem joined_inline (values : List String) : Inline (joined values) := by
  refine Inline.join (by decide) fun s member => ?_
  obtain ⟨v, _, rfl⟩ := List.mem_map.1 member
  exact Inline.escape Text.element_reversible (by simp [Text.elementSpecials]) v.toList

theorem joined_closed (values : List String) : Text.Sealed ['}'] (joined values) := by
  refine Text.join_sealed (by decide) (by decide) fun s member => ?_
  obtain ⟨v, _, rfl⟩ := List.mem_map.1 member
  exact Text.escape_sealed Text.element_reversible (by simp [Text.elementSpecials]) v.toList

include bare in
theorem elements_joined : elements (joined values) = values := by
  have kept (vs : List String) (bare : ∀ v ∈ vs, Bare v.toList ∧ v.isEmpty = false) :
      ((vs.map fun v => Text.escape Text.elementSpecials v.toList).map
        fun e => Text.trimmed (String.ofList (Text.unescape e))).filter (fun e => !e.isEmpty) = vs := by
    rw [List.map_map, List.map_congr_left (g := id), List.map_id]
    · exact List.filter_eq_self.mpr fun v member => by simp [(bare v member).2]
    · intro v member
      simp [Text.unescape_escape Text.element_reversible, Text.trimmed_bare (bare v member).1]
  cases values with
  | nil => rfl
  | cons v rest =>
    have closed : ∀ s ∈ (v :: rest).map fun v => Text.escape Text.elementSpecials v.toList, Text.Sealed [','] s := by
      intro s member
      obtain ⟨w, _, rfl⟩ := List.mem_map.1 member
      exact Text.escape_sealed Text.element_reversible (by simp [Text.elementSpecials]) w.toList
    rw [elements, joined, Text.split_join closed (by decide) (by decide) (by simp)]
    exact kept (v :: rest) bare

theorem take_set {inner : List Char} (closed : Text.Sealed ['}'] inner) (rest : List Char) :
    takeSet ('{' :: (inner ++ '}' :: rest)) = .ok (inner, rest) := by
  have start : Text.trimStart ('{' :: (inner ++ '}' :: rest)) = '{' :: (inner ++ '}' :: rest) :=
    Text.trim_start_head fun c first => by
      obtain rfl := Option.some.inj first
      decide
  have cut := Text.cut_sealed closed (show '}' ∈ ['}'] by decide) (by decide) rest
  simp [takeSet, start, cut]

theorem take_written_set (values : List String) (flag : List Char) :
    takeSet (writtenSet values ++ flag) = .ok (joined values, flag) := by
  have shape : writtenSet values ++ flag = '{' :: (joined values ++ '}' :: flag) := by
    simp [writtenSet, joined]
  rw [shape]
  exact take_set (joined_closed values) flag

end Sets

theorem read_flag {flag : List Char} (bare : Bare flag) (some : flag ≠ []) (set : Bool) :
    readFlag flag (if set then flag else []) = .ok set := by
  cases set with
  | false => rfl
  | true => simp [readFlag, Text.bare_trim bare, some]

theorem read_colors {w : ColorWish} (plain : w.colors.Plain) :
    readColors (written (.colors w)) = .ok (.colors w) := by
  have signs := ColorSet.letters_signs w.colors
  have closed : Text.Sealed ['}'] w.colors.letters := by
    refine .of_plain (fun slash => ?_) fun c member => ?_
    · revert slash
      exact fun slash => absurd (signs _ slash) (by decide)
    · intro brace
      rw [List.mem_singleton.1 brace] at member
      exact absurd (signs _ member) (by decide)
  have unescaped : Text.unescape w.colors.letters = w.colors.letters :=
    Text.unescape_plain fun slash => absurd (signs _ slash) (by decide)
  have flag : readFlag ['M'] (if w.multicolored then ['M'] else []) = .ok w.multicolored :=
    read_flag (Text.bare_of_all (by simp [Text.isBlank])) (by decide) w.multicolored
  rw [readColors, written, List.cons_append, take_set closed]
  dsimp only
  rw [unescaped, ColorSet.read_letters plain]
  dsimp only
  rw [flag]
  rfl

theorem options_bare {values : OrderedSet String} (whole : (Operand.options values).blemish? = Option.none) :
    ∀ v ∈ values.toList, Bare v.toList ∧ v.isEmpty = false := by
  intro v member
  have clean := List.find?_eq_none.1 (Option.map_eq_none_iff.1 whole) v member
  simp only [Bool.or_eq_true, bne_iff_ne, ne_eq, not_or, Bool.not_eq_true, Decidable.not_not] at clean
  have trimmed : Text.trim v.toList = v.toList := by
    have texts := congrArg String.toList clean.2
    simpa [Text.trimmed] using texts
  exact ⟨trimmed ▸ Text.trim_bare v.toList, clean.1⟩

theorem of_options_again {values : OrderedSet String}
    (bare : ∀ v ∈ values.toList, Bare v.toList ∧ v.isEmpty = false) : ofOptions values.toList = .options values := by
  have same : values.toList.map Text.trimmed = values.toList := by
    have each : ∀ v ∈ values.toList, Text.trimmed v = id v := fun v member => Text.trimmed_bare (bare v member).1
    rw [List.map_congr_left each, List.map_id]
  have kept : values.toList.filter (fun v => !v.isEmpty) = values.toList :=
    List.filter_eq_self.mpr fun v member => by simp [(bare v member).2]
  rw [ofOptions, trimmedSet, same, kept, OrderedSet.of_list_to_list]

theorem read_options {values : OrderedSet String} (whole : (Operand.options values).blemish? = Option.none) :
    readOptions (written (.options values)) = .ok (.options values) := by
  have bare := options_bare whole
  have taken := take_written_set values.toList []
  rw [List.append_nil] at taken
  rw [readOptions, written, taken]
  dsimp only
  rw [elements_joined bare, of_options_again bare]
  rfl

theorem rarity_name (r : Rarity) : Rarity.read r.name = .ok r := by
  cases r <;> rfl

theorem rarity_name_bare (r : Rarity) : Bare r.name.toList ∧ r.name.isEmpty = false := by
  refine ⟨⟨fun c first => ?_, fun c last => ?_⟩, by cases r <;> decide⟩
  · cases r <;> (obtain rfl := Option.some.inj first; decide)
  · cases r <;> (obtain rfl := Option.some.inj last; decide)

theorem read_rarities (values : OrderedSet Rarity) :
    readRarities (written (.rarities values)) = .ok (.rarities values) := by
  have bare : ∀ v ∈ values.toList.map Rarity.name, Bare v.toList ∧ v.isEmpty = false := by
    intro v member
    obtain ⟨r, _, rfl⟩ := List.mem_map.1 member
    exact rarity_name_bare r
  have taken := take_written_set (values.toList.map Rarity.name) []
  rw [List.append_nil] at taken
  rw [readRarities, written, taken]
  dsimp only
  rw [show readFlag [] [] = .ok false from rfl, elements_joined bare, mapM_written fun r _ => rarity_name r]
  dsimp only
  rw [OrderedSet.of_list_to_list]

theorem read_legality {w : FormatWish} (settled : (Operand.legality w).Settled) :
    readLegality (written (.legality w)) = .ok (.legality w) := by
  have again : FormatWish.ofNames w.formats.toList w.restricted = w := settled
  have bare : ∀ v ∈ w.formats.toList, Bare v.toList ∧ v.isEmpty = false := by
    intro v member
    rw [← again] at member
    obtain ⟨bare, _, some⟩ := FormatWish.mem_of_names member
    exact ⟨bare, some⟩
  have flag : readFlag ['r'] (if w.restricted then ['r'] else []) = .ok w.restricted :=
    read_flag (Text.bare_of_all (by simp [Text.isBlank])) (by decide) w.restricted
  rw [readLegality, written, take_written_set]
  dsimp only
  rw [flag, elements_joined bare]
  exact congrArg (fun wish => Except.ok (Operand.legality wish)) again

theorem number_finite {x : Binary64} (whole : (Operand.number x).blemish? = Option.none) :
    x.isFinite = true ∧ ofNumber x = .ok (.number x) := by
  unfold blemish? at whole
  dsimp only at whole
  split at whole
  · cases whole
  · rename_i finite
    split at whole
    · cases whole
    · rename_i signed
      simp only [Bool.not_eq_true, Bool.not_eq_false'] at finite
      refine ⟨finite, ?_⟩
      rw [ofNumber, if_pos finite]
      by_cases zero : x.isZero
      · have positive : x.negative = false := by simpa [zero] using signed
        have same := Binary64.of_magnitude_self x
        simp only [Binary64.isZero, beq_iff_eq] at zero
        rw [positive, zero] at same
        rw [if_pos (by simpa [Binary64.isZero] using zero), Binary64.zero, same]
      · rw [if_neg zero]

theorem read_number {x : Binary64} (whole : (Operand.number x).blemish? = Option.none) :
    readNumber (written (.number x)) = .ok (.number x) := by
  obtain ⟨finite, clean⟩ := number_finite whole
  have signs := Binary64.text_signs finite
  have unescaped : Text.unescape x.text = x.text :=
    Text.unescape_plain fun slash => Binary64.sign_plain (signs _ slash) (by decide)
  have bare : Bare x.text := Text.bare_of_all fun c member => Binary64.sign_blank (signs c member)
  rw [readNumber, written, unescaped, Text.bare_trim bare, Binary64.read_text finite]
  exact clean

theorem of_text_again (s : Search) : ofText s.text = .ok (.text s) := by
  have found : Search.ofText? s.text = some s := by
    unfold Search.ofText?
    split
    · rename_i m read
      exact congrArg some (Search.eq_of_text rfl)
    · rename_i refused
      rw [s.readable] at refused
      cases refused
  rw [ofText, found]

theorem read_written {a : Aspect} {m : Mode} {o : Operand} (suits : o.suits a m = true)
    (whole : o.blemish? = Option.none) (settled : o.Settled) : readWritten a m o.written = .ok o := by
  unfold Operand.suits at suits
  unfold readWritten
  split at suits
  · rename_i kind
    rw [kind]
    rfl
  · rename_i kind
    rw [kind]
    dsimp only
    rw [if_pos suits]
    rfl
  · rename_i x kind
    have compared : m.isExistence = false := by
      cases m <;> first | rfl | cases suits
    rw [kind]
    dsimp only
    rw [compared, if_neg (by decide)]
    exact read_number whole
  · rename_i s kind
    rw [kind]
    dsimp only
    rw [written, dropBlank, Text.unescape_escape Text.bracket_reversible, String.ofList_toList]
    exact of_text_again s
  · rename_i c kind
    have read : ManaCost.read c.toText = .ok c := settled
    rw [kind]
    dsimp only
    rw [written, Text.unescape_escape Text.bracket_reversible, show String.ofList c.text = c.toText from rfl, read]
  · rename_i w kind
    rw [kind]
    exact read_colors settled
  · rename_i values kind
    rw [kind]
    exact read_options whole
  · rename_i values kind
    rw [kind]
    exact read_rarities values
  · rename_i w kind
    rw [kind]
    exact read_legality settled
  · cases suits

theorem written_set_inline (values : List String) : Inline (writtenSet values) :=
  Inline.cons (by decide) ((joined_inline values).append (Inline.single (by decide)))

theorem written_inline {o : Operand} (whole : o.blemish? = Option.none) : Inline o.written := by
  cases o with
  | none => exact .nil
  | text s => exact Inline.cons (by decide) (Inline.escape Text.bracket_reversible (by simp [Text.bracketSpecials]) _)
  | cost c => exact Inline.escape Text.bracket_reversible (by simp [Text.bracketSpecials]) _
  | number x =>
    obtain ⟨finite, _⟩ := number_finite whole
    refine Inline.of_plain fun c member => ?_
    have plain := Binary64.sign_plain (Binary64.text_signs finite c member)
    simp only [List.mem_cons, List.not_mem_nil, or_false, not_or] at plain ⊢
    exact ⟨plain.1, plain.2.1, plain.2.2.1, plain.2.2.2.1, plain.2.2.2.2.1, plain.2.2.2.2.2.1⟩
  | colors w =>
    have letters : Inline w.colors.letters := by
      have plain : ∀ c ∈ Color.all.map Color.letter, c ∉ ['\\', '<', '>', '\n', '\r', '\t'] := by
        simp [Color.all, Color.letter]
      exact Inline.of_plain fun c member => plain c (ColorSet.letters_signs w.colors c member)
    refine Inline.cons (by decide) (letters.append (Inline.cons (by decide) ?_))
    split
    · exact Inline.single (by decide)
    · exact .nil
  | options values => exact written_set_inline _
  | rarities values => exact written_set_inline _
  | legality w =>
    refine (written_set_inline _).append ?_
    split
    · exact Inline.single (by decide)
    · exact .nil

theorem written_head {o : Operand} (whole : o.blemish? = Option.none) : o.written.head? ≠ some '=' := by
  cases o with
  | none => simp [written]
  | text s => simp [written]
  | cost c =>
    obtain ⟨symbols⟩ := c
    cases symbols with
    | nil => simp [written, ManaCost.text, Text.escape]
    | cons m rest =>
      simp [written, ManaCost.text, ManaSymbol.text, Text.escape, Text.escapeChar, Text.bracketSpecials]
  | number x =>
    obtain ⟨finite, _⟩ := number_finite whole
    intro first
    exact Binary64.sign_plain (Binary64.text_signs finite _ (List.mem_of_head? first)) (by decide)
  | colors w => simp [written]
  | options values => simp [written, writtenSet]
  | rarities values => simp [written, writtenSet]
  | legality w => simp [written, writtenSet]

end Operand

end Deckwright
