import Deckwright.Proofs.Json.Grammar
set_option autoImplicit false

namespace Deckwright.Json

inductive Faithful : Json → Prop where
  | null : Faithful .null
  | bool (b : Bool) : Faithful (.bool b)
  | integer {n : Int} (least : -0x8000000000000000 ≤ n) (most : n ≤ largestWord) : Faithful (.integer n)
  | real {x : Binary64} (finite : x.isFinite = true) (back : x.ReadsBack) : Faithful (.real x)
  | text (s : String) : Faithful (.text s)
  | list {items : List Json} (inner : ∀ j ∈ items, Faithful j) : Faithful (.list items)
  | record {fields : List (String × Json)} (inner : ∀ e ∈ fields, Faithful e.2) : Faithful (.record fields)

theorem texts_faithful (ss : List String) : (texts ss).Faithful := by
  refine .list fun j member => ?_
  obtain ⟨s, _, rfl⟩ := List.mem_map.1 member
  exact .text s

theorem of_nat_faithful {n : Nat} (most : n ≤ largestWord) : (ofNat n).Faithful := .integer (by omega) (by omega)

theorem of_binary64_faithful {x : Binary64} (back : x.isFinite = true → x.ReadsBack) : (ofBinary64 x).Faithful := by
  rw [ofBinary64]
  by_cases finite : x.isFinite = true
  · rw [if_pos finite]
    exact .real finite (back finite)
  · rw [if_neg finite]
    exact .null

theorem of_option_faithful {α : Type} {write : α → Json} {o : Option α} (each : ∀ a ∈ o, (write a).Faithful) :
    (ofOption write o).Faithful := by
  cases o with
  | none => exact .null
  | some a => exact each a rfl

theorem spelled_quoted (s : String) : spelled (quoted s) = '"' :: (spelled (s.toList.flatMap textChar) ++ ['"']) := by
  rw [quoted, List.cons_append, spelled_cons (by decide), spelled_append, spelled_sign (by decide)]

theorem integer_ascii (n : Int) : ∀ c ∈ integerText n, c.toNat < 0x80 := by
  intro c member
  rcases List.mem_append.1 member with sign | digit
  · split at sign
    · rw [List.mem_singleton.1 sign]
      decide
    · cases sign
  · have code := Text.digit_code (Text.nat_digits _ c digit)
    omega

theorem word_null : Word .null (spelled (scalarText .null)) := by
  rw [scalarText, spelled_word (by decide)]
  exact .null

theorem word_bool (b : Bool) : Word (.bool b) (spelled (scalarText (.bool b))) := by
  cases b with
  | false =>
    rw [scalarText, spelled_word (by decide)]
    exact .no
  | true =>
    rw [scalarText, spelled_word (by decide)]
    exact .yes

theorem word_integer {n : Int} (least : -0x8000000000000000 ≤ n) (most : n ≤ largestWord) :
    Word (.integer n) (spelled (scalarText (.integer n))) := by
  rw [scalarText, spelled_ascii (integer_ascii n)]
  exact .integer least most

theorem word_real {x : Binary64} (finite : x.isFinite = true) (back : x.ReadsBack) :
    Word (.real x) (spelled (scalarText (.real x))) := by
  rw [scalarText, if_pos finite, pointed_spelled finite]
  exact .real finite back

theorem word_text (s : String) : Word (.text s) (spelled (scalarText (.text s))) := by
  rw [scalarText, spelled_quoted]
  exact .text s

theorem spelled_member (key : String) (gap s : List Char) (ascii : ∀ c ∈ gap, c.toNat < 0x80) :
    spelled (quoted key ++ ':' :: (gap ++ s)) = member key [] gap (spelled s) := by
  rw [spelled_append, spelled_quoted, spelled_cons (by decide), spelled_append, spelled_ascii ascii, member]
  simp

theorem gap_line (level : Nat) : Gap (newLine level) := by
  intro c here
  rcases List.mem_cons.1 here with rfl | blank
  · decide
  · rw [List.eq_of_mem_replicate blank]
    decide

theorem gap_ascii {gap : List Char} (space : Gap gap) : ∀ c ∈ gap, c.toNat < 0x80 := by
  intro c here
  have blank := space c here
  simp only [isSpace, Bool.or_eq_true, decide_eq_true_eq] at blank
  rcases blank with ((rfl | rfl) | rfl) | rfl <;> decide

theorem spelled_gap {gap : List Char} (space : Gap gap) : spelled gap = gap := spelled_ascii (gap_ascii space)

section Laid

-- Both ways to write a list or a record put one gap in front of each part and another behind the last.
variable {before closing : List Char} (space : Gap before ∧ Gap closing)

include space

theorem laid_items (body : Json → List Char) {inner : List Json → List Char}
    (last : ∀ j, inner [j] = body j ++ (closing ++ [']']))
    (more : ∀ j k rest, inner (j :: k :: rest) = body j ++ ',' :: (before ++ inner (k :: rest)))
    {items : List Json} (any : items ≠ []) (each : ∀ j ∈ items, TextOf j (spelled (body j))) :
    ItemsText items (before ++ spelled (inner items)) := by
  induction items with
  | nil => exact absurd rfl any
  | cons j rest ih =>
    have first := each j (by simp)
    cases rest with
    | nil =>
      rw [last, spelled_append, spelled_append, spelled_gap space.2, spelled_sign (by decide)]
      exact .last space first
    | cons k rest =>
      rw [more, spelled_append, spelled_cons (by decide), spelled_append, spelled_gap space.1]
      exact .more ⟨space.1, gap_nil⟩ first (ih (by simp) fun i here => each i (List.mem_cons_of_mem j here))

theorem laid_fields (body : Json → List Char) {inner : List (String × Json) → List Char} {behindColon : List Char}
    (blank : Gap behindColon)
    (last : ∀ key j, inner [(key, j)] = quoted key ++ ':' :: (behindColon ++ (body j ++ (closing ++ ['}']))))
    (more : ∀ key j e rest, inner ((key, j) :: e :: rest) =
      quoted key ++ ':' :: (behindColon ++ (body j ++ ',' :: (before ++ inner (e :: rest)))))
    {fields : List (String × Json)} (any : fields ≠ []) (each : ∀ e ∈ fields, TextOf e.2 (spelled (body e.2))) :
    FieldsText fields (before ++ spelled (inner fields)) := by
  induction fields with
  | nil => exact absurd rfl any
  | cons field rest ih =>
    obtain ⟨key, j⟩ := field
    have first := each (key, j) (by simp)
    cases rest with
    | nil =>
      rw [last, spelled_member key _ _ (gap_ascii blank), spelled_append, spelled_append, spelled_gap space.2,
        spelled_sign (by decide)]
      exact .last ⟨space.1, gap_nil, blank, space.2⟩ first
    | cons next rest =>
      rw [more, spelled_member key _ _ (gap_ascii blank), spelled_append, spelled_cons (by decide), spelled_append,
        spelled_gap space.1]
      exact .more ⟨space.1, gap_nil, blank, gap_nil⟩ first (ih (by simp) fun e here => each e (List.mem_cons_of_mem _ here))

end Laid

theorem indented_text {j : Json} (faithful : j.Faithful) (level : Nat) : TextOf j (spelled (indented level j)) := by
  induction faithful generalizing level with
  | null => exact .word word_null
  | bool b => exact .word (word_bool b)
  | integer least most => exact .word (word_integer least most)
  | real finite back => exact .word (word_real finite back)
  | text s => exact .word (word_text s)
  | @list items _ ih =>
    cases items with
    | nil =>
      rw [indented, spelled_word (by decide)]
      exact .emptyList gap_nil
    | cons j rest =>
      have laid : indented level (.list (j :: rest)) =
          '[' :: (newLine (level + 1) ++ indentedItems level (j :: rest)) := by
        rw [indented]
        · rfl
        · exact List.cons_ne_nil j rest
      rw [laid, spelled_cons (by decide), spelled_append, spelled_gap (gap_line _)]
      refine .list (laid_items ⟨gap_line (level + 1), gap_line level⟩ (indented (level + 1)) (fun j => ?_)
        (fun j k rest => ?_) (List.cons_ne_nil j rest) fun k here => ih k here (level + 1))
      all_goals simp [indentedItems]
  | @record fields _ ih =>
    cases fields with
    | nil =>
      rw [indented, spelled_word (by decide)]
      exact .emptyRecord gap_nil
    | cons e rest =>
      have laid : indented level (.record (e :: rest)) =
          '{' :: (newLine (level + 1) ++ indentedFields level (e :: rest)) := by
        rw [indented]
        · rfl
        · exact List.cons_ne_nil e rest
      have blank : Gap [' '] := by simp [Gap, isSpace]
      rw [laid, spelled_cons (by decide), spelled_append, spelled_gap (gap_line _)]
      refine .record (laid_fields ⟨gap_line (level + 1), gap_line level⟩ (indented (level + 1)) blank
        (fun key j => ?_) (fun key j e rest => ?_) (List.cons_ne_nil e rest) fun f here => ih f here (level + 1))
      all_goals simp [indentedFields]

theorem compact_text {j : Json} (faithful : j.Faithful) : TextOf j (spelled (compact j)) := by
  induction faithful with
  | null => exact .word word_null
  | bool b => exact .word (word_bool b)
  | integer least most => exact .word (word_integer least most)
  | real finite back => exact .word (word_real finite back)
  | text s => exact .word (word_text s)
  | @list items _ ih =>
    rw [compact, spelled_cons (by decide)]
    cases items with
    | nil =>
      rw [compactItems, spelled_sign (by decide)]
      exact .emptyList gap_nil
    | cons j rest =>
      refine .list (laid_items ⟨gap_nil, gap_nil⟩ compact (fun j => ?_) (fun j k rest => ?_)
        (List.cons_ne_nil j rest) ih)
      all_goals simp [compactItems]
  | @record fields _ ih =>
    rw [compact, spelled_cons (by decide)]
    cases fields with
    | nil =>
      rw [compactFields, spelled_sign (by decide)]
      exact .emptyRecord gap_nil
    | cons e rest =>
      refine .record (laid_fields ⟨gap_nil, gap_nil⟩ compact gap_nil (fun key j => ?_)
        (fun key j e rest => ?_) (List.cons_ne_nil e rest) ih)
      all_goals simp [compactFields]

theorem decode_indented {α : Type} {j : Json} (faithful : j.Faithful) (read : Reader α) :
    decodeOctets read (Text.toOctets j.toIndentedText.toList) = read levelLimit (drafted j) := by
  rw [toIndentedText, String.toList_ofList]
  exact decode_octets (draft_text (indented_text faithful 0)) read

theorem decode_compact {α : Type} {j : Json} (faithful : j.Faithful) (read : Reader α) :
    decode read j.toText.toList = read levelLimit (drafted j) := by
  rw [decode, toText, String.toList_ofList]
  exact decode_octets (draft_text (compact_text faithful)) read

end Deckwright.Json
