import Deckwright.Proofs.Filter.Bracket
import Deckwright.Proofs.Text.Blank
import Deckwright.Proofs.Text.Offset
set_option autoImplicit false

/- A counter that goes below zero, a cut within a character and a nesting deeper than the text is long all give
   nothing; since the reading gives what reading by characters gives, none of them ever comes up. -/
namespace Deckwright

open Text (octetLength slice? marks marksFrom firstWord)

namespace Leaf

def ofParts (body code : List Char) (content? : Option (List Char)) (fault : BracketFault → FilterFault) :
    Except FilterFault Leaf :=
  match Aspect.ofCode? (Text.trimmed (String.ofList (Text.unescape code))) with
  | none => .error (.unknownAspect (Text.trimmed (String.ofList (Text.unescape code))))
  | some a =>
    if a.kind = .constant then
      if (Text.trim (content?.getD [])).isEmpty then make a .always .none
      else .error (fault (.nothingTaken a.code))
    else
      match content? with
      | none => .error (fault (.colonExpected (String.ofList body)))
      | some content => ofContent a body content fault

def ofCut (body : List Char) (cut : Option (List Char × List Char)) (fault : BracketFault → FilterFault) :
    Except FilterFault Leaf :=
  ofParts body ((cut.map Prod.fst).getD body) (cut.map Prod.snd) fault

theorem of_body_cut (body : List Char) (fault : BracketFault → FilterFault) :
    ofBody body fault = ofCut body (Text.cutUnescaped ':' body) fault := by
  unfold ofBody ofCut ofParts
  cases Text.cutUnescaped ':' body with
  | none =>
    cases named : Aspect.ofCode? (Text.trimmed (String.ofList (Text.unescape body))) <;>
      simp only [named, Option.map_none, Option.getD_none]
  | some parts =>
    cases named : Aspect.ofCode? (Text.trimmed (String.ofList (Text.unescape parts.1))) <;>
      simp only [named, Option.map_some, Option.getD_some]

def ofBodyByOffset (body : List Char) (fault : BracketFault → FilterFault) : Option (Except FilterFault Leaf) :=
  (Text.cutByOffset ':' body).map fun cut => ofCut body cut fault

theorem of_body_by_offset (body : List Char) (fault : BracketFault → FilterFault) :
    ofBodyByOffset body fault = some (ofBody body fault) := by
  rw [ofBodyByOffset, Text.cut_by_offset (by decide), of_body_cut]
  rfl

end Leaf

namespace Filter

def bodyAtMarks (s : List Char) : Nat → List (Nat × Char) → Option (Except BracketFault (List Char))
  | _, [] => some (.error .unbalanced)
  | depth, (i, c) :: rest =>
    if c = '<' then bodyAtMarks s (depth + 1) rest
    else if c = '>' then
      if depth = 0 then none
      else if depth - 1 = 0 then
        if i + 1 = octetLength s then (slice? 1 i s).map .ok else some (.error .textAfterClose)
      else bodyAtMarks s (depth - 1) rest
    else bodyAtMarks s depth rest

def bodyByOffset (s : List Char) : Option (Except BracketFault (List Char)) :=
  if s.head? = some '<' then bodyAtMarks s 0 (marks s) else some (.error .openExpected)

-- The flag tells that the character before was a backslash, the numbers how many brackets are
-- open, where the first of them stands and where the next character stands.
def piecesAt (whole : List Char) : Bool → Nat → Nat → Nat → List Char → Option (Except BracketFault (List (List Char)))
  | _, depth, _, _, [] => some (if depth = 0 then .ok [] else .error .unbalanced)
  | true, depth, start, i, c :: s => piecesAt whole false depth start (i + c.utf8Size) s
  | false, depth, start, i, c :: s =>
    if depth = 0 && c != '<' && !Text.isBlank c then some (.error (.between c))
    else if c = '\\' then piecesAt whole true depth start (i + c.utf8Size) s
    else if c = '<' then piecesAt whole false (depth + 1) (if depth = 0 then i else start) (i + c.utf8Size) s
    else if c = '>' then
      if depth = 0 then none
      else if depth - 1 = 0 then do
        let piece ← slice? start (i + c.utf8Size) whole
        let pieces ← piecesAt whole false 0 start (i + c.utf8Size) s
        return pieces.map (piece :: ·)
      else piecesAt whole false (depth - 1) start (i + c.utf8Size) s
    else piecesAt whole false depth start (i + c.utf8Size) s

def piecesByOffset (s : List Char) : Option (Except BracketFault (List (List Char))) := piecesAt s false 0 0 0 s

def readInTurn (read : List Char → Option (Except FilterFault Filter)) :
    List (List Char) → Option (Except FilterFault (List Filter))
  | [] => some (.ok [])
  | p :: ps => do
    match ← read p with
    | .error e => return .error e
    | .ok f => return (← readInTurn read ps).map (f :: ·)

def readByOffsetFrom (fault : BracketFault → FilterFault) : Nat → List Char → Option (Except FilterFault Filter)
  | 0, _ => none
  | fuel + 1, s => do
    match ← bodyByOffset (Text.trim s) with
    | .error e => return .error (fault e)
    | .ok inner =>
      let headEnd := octetLength (inner.takeWhile fun c => !Text.isBlank c)
      let head ← slice? 0 headEnd inner
      match GroupMode.ofKeyword? (String.ofList head) with
      | none => return (← Leaf.ofBodyByOffset inner fault).map leaf
      | some m =>
        let rest ← slice? headEnd (octetLength inner) inner
        match ← piecesByOffset rest with
        | .error e => return .error (fault e)
        | .ok [] => return .error (fault .emptyGroup)
        | .ok ps =>
          match ← readInTurn (readByOffsetFrom fault fuel) ps with
          | .error e => return .error e
          | .ok fs => return ofGroup m fs

def readByOffset (s : List Char) : Option (Except FilterFault Filter) :=
  readByOffsetFrom (.bracketed (String.ofList s)) (s.length + 1) s

section Body

def bodyOf (front : List Char) : Option (List Char × List Char) → Except BracketFault (List Char)
  | none => .error .unbalanced
  | some (inner, []) => .ok (front ++ inner)
  | some (_, _ :: _) => .error .textAfterClose

theorem body_of_closing (s : List Char) : body ('<' :: s) = bodyOf [] (closing 0 s) := by
  rw [body]
  rcases closing 0 s with _ | ⟨_, _ | _⟩ <;> rfl

theorem body_of_after (front t : List Char) (o : Option (List Char × List Char)) :
    bodyOf front (closingAfter t o) = bodyOf (front ++ t) o := by
  rcases o with _ | ⟨_, _ | _⟩ <;> simp [bodyOf, closingAfter]

-- front has been passed over and is behind one bracket that is open.
theorem body_at_marks (front s : List Char) (depth : Nat) :
    bodyAtMarks ('<' :: (front ++ s)) (depth + 1) (marksFrom false (octetLength ('<' :: front)) s) =
      some (bodyOf front (closing depth s)) := by
  induction s using Text.scan_induction generalizing front depth with
  | nil => cases depth <;> rfl
  | slash =>
    rw [Text.marks_slash, closing_slash]
    rfl
  | pair c s ih =>
    have next := ih (front ++ ['\\', c]) depth
    rw [Text.marks_pair, ← Text.octet_length_append, closing_pair, body_of_after]
    simpa using next
  | opens s ih =>
    have next := ih (front ++ ['<']) (depth + 1)
    rw [Text.marks_sign (by decide), ← Text.octet_length_append, closing_open, body_of_after, bodyAtMarks, if_pos rfl]
    simpa using next
  | closes s ih =>
    rw [Text.marks_sign (by decide), ← Text.octet_length_append, bodyAtMarks, if_neg (by decide), if_pos rfl,
      if_neg (Nat.succ_ne_zero depth), Nat.add_sub_cancel]
    cases depth with
    | zero =>
      have width : octetLength ('<' :: front) + 1 = octetLength ('<' :: (front ++ ['>'])) := by
        rw [← List.cons_append, Text.octet_length_append]
        rfl
      rw [closing_here, if_pos rfl]
      cases s with
      | nil =>
        have inside := Text.slice_between ['<'] front ['>']
        rw [if_pos width]
        simp only [List.cons_append, List.nil_append] at inside
        rw [show octetLength ['<'] = 1 from rfl] at inside
        rw [inside]
        simp [bodyOf]
      | cons c s =>
        have longer : octetLength ('<' :: front) + 1 ≠ octetLength ('<' :: (front ++ '>' :: c :: s)) := by
          rw [width, show '<' :: (front ++ '>' :: c :: s) = '<' :: (front ++ ['>']) ++ c :: s by simp,
            Text.octet_length_append]
          have more := Text.octet_length_positive c s
          omega
        rw [if_neg longer]
        rfl
    | succ depth =>
      have next := ih (front ++ ['>']) depth
      rw [closing_close, body_of_after, if_neg (Nat.succ_ne_zero depth)]
      simpa using next
  | plain c s passed ih =>
    have next := ih (front ++ [c]) depth
    have signs := passed
    simp only [Text.bracketSpecials, List.mem_cons, List.not_mem_nil, or_false, not_or] at signs
    rw [Text.marks_sign signs.1, ← Text.octet_length_append, closing_plain passed, body_of_after, bodyAtMarks,
      if_neg signs.2.1, if_neg signs.2.2]
    simpa using next

theorem body_by_offset (s : List Char) : bodyByOffset s = some (body s) := by
  rw [bodyByOffset]
  by_cases opens : s.head? = some '<'
  · rw [if_pos opens]
    obtain ⟨s, rfl⟩ : ∃ t, s = '<' :: t := by
      cases s with
      | nil => cases opens
      | cons c t => exact ⟨t, by rw [Option.some.inj opens]⟩
    have inside := body_at_marks [] s 0
    rw [body_of_closing, ← inside, marks, Text.marks_sign (by decide), bodyAtMarks, if_pos rfl]
    rfl
  · rw [if_neg opens]
    unfold body
    split
    · exact absurd rfl opens
    · rfl

end Body

section Pieces

variable {whole : List Char}

theorem pieces_at (s : List Char) :
    (∀ front start, whole = front ++ s → piecesAt whole false 0 start (octetLength front) s = some (piecesFrom none s)) ∧
    ∀ front opened depth, whole = front ++ opened.reverse ++ s →
      piecesAt whole false (depth + 1) (octetLength front) (octetLength (front ++ opened.reverse)) s =
        some (piecesFrom (some (depth, opened)) s) := by
  have after (front : List Char) (c : Char) : octetLength front + c.utf8Size = octetLength (front ++ [c]) := by
    rw [Text.octet_length_append, Text.octet_length_cons, Text.octet_length_nil]
    rfl
  induction s using Text.scan_induction with
  | nil => exact ⟨fun _ _ _ => rfl, fun _ _ _ _ => rfl⟩
  | slash => exact ⟨fun _ _ _ => rfl, fun _ _ _ _ => by rw [pieces_slash]; rfl⟩
  | pair c s ih =>
    refine ⟨fun front start split => rfl, fun front opened depth split => ?_⟩
    have next := ih.2 front (c :: '\\' :: opened) depth (by simp [split])
    rw [piecesAt, if_neg (by simp), if_pos rfl, piecesAt, after, after, pieces_pair, ← next]
    simp
  | opens s ih =>
    refine ⟨fun front start split => ?_, fun front opened depth split => ?_⟩
    · have next := ih.2 front ['<'] 0 (by simp [split])
      rw [piecesAt, if_neg (by simp), if_neg (by decide), if_pos rfl, if_pos rfl, after, pieces_outside, if_pos rfl, ← next]
      simp
    · have next := ih.2 front ('<' :: opened) (depth + 1) (by simp [split])
      rw [piecesAt, if_neg (by simp), if_neg (by decide), if_pos rfl, if_neg (by simp), after, pieces_open, ← next]
      simp
  | closes s ih =>
    refine ⟨fun front start split => rfl, fun front opened depth split => ?_⟩
    rw [piecesAt, if_neg (by simp), if_neg (by decide), if_neg (by decide), if_pos rfl,
      if_neg (Nat.succ_ne_zero depth), Nat.add_sub_cancel, after]
    cases depth with
    | zero =>
      have piece := Text.slice_between front (opened.reverse ++ ['>']) s
      have rest := ih.1 (front ++ opened.reverse ++ ['>']) (octetLength front) (by simp [split])
      rw [show front ++ (opened.reverse ++ ['>']) ++ s = whole by simp [split], ← List.append_assoc] at piece
      rw [if_pos rfl, piece, rest, pieces_here, List.reverse_cons]
      rfl
    | succ depth =>
      have next := ih.2 front ('>' :: opened) depth (by simp [split])
      rw [if_neg (Nat.succ_ne_zero depth), pieces_close, ← next]
      simp
  | plain c s passed ih =>
    have signs := passed
    simp only [Text.bracketSpecials, List.mem_cons, List.not_mem_nil, or_false, not_or] at signs
    refine ⟨fun front start split => ?_, fun front opened depth split => ?_⟩
    · rw [piecesAt, pieces_outside]
      by_cases blank : Text.isBlank c = true
      · have next := ih.1 (front ++ [c]) start (by simp [split])
        rw [if_neg (by simp [blank]), if_neg signs.1, if_neg signs.2.1, if_neg signs.2.2, after, next, if_neg signs.2.1,
          if_pos blank]
      · rw [if_pos (by simp [blank, signs.2.1]), if_neg signs.2.1, if_neg blank]
    · have next := ih.2 front (c :: opened) depth (by simp [split])
      rw [piecesAt, if_neg (by simp), if_neg signs.1, if_neg signs.2.1, if_neg signs.2.2, after, pieces_plain passed, ← next]
      simp

theorem pieces_by_offset (s : List Char) : piecesByOffset s = some (pieces s) :=
  (pieces_at s).1 [] 0 rfl

end Pieces

theorem spread_length {s : List Char} {ps : List (List Char)} (spread : Spread s ps) :
    ∀ p ∈ ps, p.length ≤ s.length := by
  induction spread with
  | nil => simp
  | blank _ _ ih =>
    intro p member
    exact Nat.le_succ_of_le (ih p member)
  | piece _ _ ih =>
    intro p member
    rw [List.length_append]
    rcases List.mem_cons.1 member with rfl | later
    · omega
    · have less := ih p later
      omega

theorem trim_length (s : List Char) : (Text.trim s).length ≤ s.length := by
  have front : (Text.trim s).length ≤ (Text.trimStart s).length := (Text.trim_end_prefix (Text.trimStart s)).length_le
  exact Nat.le_trans front (List.dropWhile_suffix Text.isBlank).length_le

theorem piece_shorter {s inner p : List Char} {ps : List (List Char)} (opened : body (Text.trim s) = .ok inner)
    (split : pieces (firstWord inner).2 = .ok ps) (member : p ∈ ps) : p.length < s.length := by
  have piece := spread_length (spread_of_pieces split) p member
  have word := congrArg List.length (Text.firstWord_append inner)
  have outer := congrArg List.length (body_sound opened).2
  have trimmed := trim_length s
  simp only [List.length_cons, List.length_append, List.length_nil] at word outer
  omega

theorem read_in_turn {checked : List Char → Option (Except FilterFault Filter)}
    {read : List Char → Except FilterFault Filter} {ps : List (List Char)} (same : ∀ p ∈ ps, checked p = some (read p)) :
    readInTurn checked ps = some (ps.mapM read) := by
  induction ps with
  | nil => rfl
  | cons p ps ih =>
    have first := same p (by simp)
    have rest := ih fun q member => same q (List.mem_cons_of_mem p member)
    rw [readInTurn, first, rest, List.mapM_cons]
    cases read p with
    | error e => rfl
    | ok f => cases ps.mapM read <;> rfl

theorem read_by_offset_from (fault : BracketFault → FilterFault) {fuel : Nat} {s : List Char} (long : s.length < fuel) :
    readByOffsetFrom fault fuel s = some (readFrom fault fuel s) := by
  induction fuel generalizing s with
  | zero => exact absurd long (Nat.not_lt_zero _)
  | succ fuel ih =>
    rw [readByOffsetFrom, readFrom, body_by_offset]
    cases opened : body (Text.trim s) with
    | error e => rfl
    | ok inner =>
      have cut := Text.firstWord_append inner
      have head := Text.slice_front (firstWord inner).1 (firstWord inner).2
      have rest := Text.slice_back (firstWord inner).1 (firstWord inner).2
      rw [cut] at head rest
      have word : (inner.takeWhile fun c => !Text.isBlank c) = (firstWord inner).1 := rfl
      simp only [Option.bind_eq_bind, Option.bind_some, word]
      rw [head, Option.bind_some]
      cases GroupMode.ofKeyword? (String.ofList (firstWord inner).1) with
      | none =>
        rw [Leaf.of_body_by_offset]
        rfl
      | some m =>
        dsimp only
        rw [rest, Option.bind_some, pieces_by_offset, Option.bind_some]
        cases split : pieces (firstWord inner).2 with
        | error e => rfl
        | ok ps =>
          cases ps with
          | nil => rfl
          | cons p ps =>
            have each : ∀ q ∈ p :: ps, readByOffsetFrom fault fuel q = some (readFrom fault fuel q) := fun q member =>
              ih (Nat.lt_of_lt_of_le (piece_shorter opened split member) (Nat.le_of_lt_succ long))
            dsimp only
            rw [read_in_turn each]
            cases (p :: ps).mapM (readFrom fault fuel) <;> rfl

theorem read_by_offset (s : List Char) : readByOffset s = some (read s) :=
  read_by_offset_from _ (Nat.lt_succ_self _)

end Filter

end Deckwright
