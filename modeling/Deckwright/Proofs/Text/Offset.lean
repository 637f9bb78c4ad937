import Deckwright.Proofs.Text.Escape
set_option autoImplicit false

/- A cut within a character or beyond the end gives nothing. The offsets that a scan over the signs without a
   backslash in front comes to are all between characters, so the cuts made there give what cutting the
   characters gives. -/
namespace Deckwright.Text

def octetLength : List Char → Nat
  | [] => 0
  | c :: s => c.utf8Size + octetLength s

def partAt? : Nat → List Char → Option (List Char × List Char)
  | 0, s => some ([], s)
  | _ + 1, [] => none
  | n + 1, c :: s =>
    if c.utf8Size ≤ n + 1 then (partAt? (n + 1 - c.utf8Size) s).map fun (front, back) => (c :: front, back)
    else none

def slice? (first last : Nat) (s : List Char) : Option (List Char) := do
  let (front, _) ← partAt? last s
  let (_, inside) ← partAt? first front
  return inside

-- The characters without a backslash in front, backslashes apart, each with its offset.
def marksFrom : Bool → Nat → List Char → List (Nat × Char)
  | _, _, [] => []
  | true, i, c :: s => marksFrom false (i + c.utf8Size) s
  | false, i, c :: s =>
    if c = '\\' then marksFrom true (i + c.utf8Size) s else (i, c) :: marksFrom false (i + c.utf8Size) s

def marks (s : List Char) : List (Nat × Char) := marksFrom false 0 s

def firstMark? (sign : Char) (marks : List (Nat × Char)) : Option Nat :=
  (marks.find? fun mark => mark.2 = sign).map Prod.fst

def cutByOffset (sign : Char) (s : List Char) : Option (Option (List Char × List Char)) :=
  match firstMark? sign (marks s) with
  | none => some none
  | some i => do
    let front ← slice? 0 i s
    let back ← slice? (i + 1) (octetLength s) s
    return some (front, back)

def splitAtMarks (sign : Char) (s : List Char) : Nat → List (Nat × Char) → Option (List (List Char))
  | start, [] => (slice? start (octetLength s) s).map fun piece => [piece]
  | start, (i, c) :: rest =>
    if c = sign then do
      let piece ← slice? start i s
      let pieces ← splitAtMarks sign s (i + c.utf8Size) rest
      return piece :: pieces
    else splitAtMarks sign s start rest

def splitByOffset (sign : Char) (s : List Char) : Option (List (List Char)) := splitAtMarks sign s 0 (marks s)

theorem octet_length_nil : octetLength [] = 0 := rfl

theorem octet_length_cons (c : Char) (s : List Char) : octetLength (c :: s) = c.utf8Size + octetLength s := rfl

theorem octet_length_positive (c : Char) (s : List Char) : 0 < octetLength (c :: s) := by
  have least := c.utf8Size_pos
  rw [octet_length_cons]
  omega

theorem octet_length_append (s t : List Char) : octetLength (s ++ t) = octetLength s + octetLength t := by
  induction s with
  | nil => rw [List.nil_append, octet_length_nil, Nat.zero_add]
  | cons c s ih => rw [List.cons_append, octet_length_cons, octet_length_cons, ih, Nat.add_assoc]

theorem part_between (front back : List Char) : partAt? (octetLength front) (front ++ back) = some (front, back) := by
  induction front with
  | nil => rw [octet_length_nil, List.nil_append, partAt?]
  | cons c front ih =>
    obtain ⟨n, width⟩ := Nat.exists_eq_add_one.2 (octet_length_positive c front)
    have rest : n + 1 - c.utf8Size = octetLength front := by
      rw [← width, octet_length_cons]
      omega
    have within : c.utf8Size ≤ n + 1 := by
      rw [← width, octet_length_cons]
      omega
    rw [width, List.cons_append, partAt?, if_pos within, rest, ih]
    rfl

theorem slice_between (front inside back : List Char) :
    slice? (octetLength front) (octetLength (front ++ inside)) (front ++ inside ++ back) = some inside := by
  rw [slice?, part_between]
  dsimp only [Option.bind_eq_bind, Option.bind_some]
  rw [part_between]
  rfl

theorem slice_front (front back : List Char) : slice? 0 (octetLength front) (front ++ back) = some front := by
  simpa [octet_length_nil] using slice_between [] front back

theorem slice_back (front back : List Char) :
    slice? (octetLength front) (octetLength (front ++ back)) (front ++ back) = some back := by
  simpa using slice_between front back []

section Marks

variable {i : Nat} {s : List Char}

theorem marks_slash : marksFrom false i ['\\'] = [] := by simp [marksFrom]

theorem marks_pair (c : Char) :
    marksFrom false i ('\\' :: c :: s) = marksFrom false (i + octetLength ['\\', c]) s := by
  simp [marksFrom, octetLength, Nat.add_assoc]

theorem marks_sign {c : Char} (other : c ≠ '\\') :
    marksFrom false i (c :: s) = (i, c) :: marksFrom false (i + octetLength [c]) s := by
  simp [marksFrom, octetLength, other]

theorem first_mark (sign : Char) :
    firstMark? sign (marksFrom false i s) = (cutUnescaped sign s).map fun parts => i + octetLength parts.1 := by
  induction s using escape_induction generalizing i with
  | nil => rfl
  | slash =>
    rw [marks_slash, cut_slash]
    rfl
  | pair c s ih =>
    rw [marks_pair, ih, cut_pair, Option.map_map]
    congr 1
    funext parts
    simp [octetLength, Nat.add_assoc]
  | sign c s other ih =>
    rw [marks_sign other]
    by_cases here : c = sign
    · subst here
      rw [cut_here other]
      simp [firstMark?, octet_length_nil]
    · rw [cut_sign other here, Option.map_map, firstMark?, List.find?_cons_of_neg (by simpa using here), ← firstMark?, ih]
      congr 1
      funext parts
      simp [octetLength, Nat.add_assoc]

end Marks

theorem cut_by_offset {sign : Char} (single : sign.utf8Size = 1) (s : List Char) :
    cutByOffset sign s = some (cutUnescaped sign s) := by
  rw [cutByOffset, marks, first_mark]
  cases cut : cutUnescaped sign s with
  | none => rfl
  | some parts =>
    obtain ⟨front, back⟩ := parts
    obtain rfl := cut_sound cut
    have behind : octetLength front + 1 = octetLength (front ++ [sign]) := by
      rw [octet_length_append, octet_length_cons, single, octet_length_nil]
    have rest := slice_back (front ++ [sign]) back
    rw [List.append_assoc, List.singleton_append] at rest
    simp only [Option.map_some, Nat.zero_add]
    rw [slice_front, behind, rest]
    rfl

theorem cons_to_first_append (front back : List Char) (pieces : List (List Char)) :
    consToFirst front (consToFirst back pieces) = consToFirst (front ++ back) pieces := by
  cases pieces <;> simp [consToFirst]

theorem split_some (sign : Char) (s : List Char) : splitUnescaped sign s ≠ [] := by
  induction s using escape_induction with
  | nil => simp [splitUnescaped]
  | slash => simp [splitUnescaped]
  | pair c s _ =>
    rw [split_pair]
    cases splitUnescaped sign s <;> simp [consToFirst]
  | sign c s other _ =>
    by_cases here : c = sign
    · subst here
      simp [split_here other]
    · rw [split_sign other here]
      cases splitUnescaped sign s <;> simp [consToFirst]

-- The piece that is being read begins at start; front is what was read of it.
theorem split_at_marks (sign : Char) (before front s : List Char) :
    splitAtMarks sign (before ++ front ++ s) (octetLength before) (marksFrom false (octetLength (before ++ front)) s) =
      some (consToFirst front (splitUnescaped sign s)) := by
  induction s using escape_induction generalizing before front with
  | nil =>
    rw [List.append_nil, marksFrom, splitAtMarks, slice_back]
    simp [splitUnescaped, consToFirst]
  | slash =>
    rw [marks_slash, splitAtMarks, List.append_assoc, slice_back]
    simp [splitUnescaped, consToFirst]
  | pair c s ih =>
    have next := ih before (front ++ ['\\', c])
    rw [marks_pair, ← octet_length_append, split_pair, cons_to_first_append]
    simpa using next
  | sign c s other ih =>
    rw [marks_sign other, ← octet_length_append, splitAtMarks]
    by_cases here : c = sign
    · subst here
      have next := ih (before ++ front ++ [c]) []
      rw [List.append_nil] at next
      have start : octetLength (before ++ front) + c.utf8Size = octetLength (before ++ front ++ [c]) := by
        rw [octet_length_append (before ++ front), octet_length_cons, octet_length_nil]
        rfl
      rw [if_pos rfl, slice_between, split_here other, start]
      rw [List.append_assoc, List.singleton_append] at next
      rw [next]
      obtain ⟨piece, rest, pieces⟩ := List.exists_cons_of_ne_nil (split_some c s)
      simp [pieces, consToFirst]
    · have next := ih before (front ++ [c])
      rw [if_neg here, split_sign other here, cons_to_first_append]
      simpa using next

theorem split_by_offset (sign : Char) (s : List Char) : splitByOffset sign s = some (splitUnescaped sign s) := by
  have whole := split_at_marks sign [] [] s
  obtain ⟨piece, rest, pieces⟩ := List.exists_cons_of_ne_nil (split_some sign s)
  rw [splitByOffset, marks]
  rw [pieces] at whole ⊢
  exact whole

end Deckwright.Text
