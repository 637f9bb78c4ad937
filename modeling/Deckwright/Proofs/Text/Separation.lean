import Deckwright.Proofs.Text.Offset
set_option autoImplicit false

namespace Deckwright.Text

-- Whether a scan that has come to the end of a text has a backslash behind it and waits for what
-- it stands in front of.
def waitsAfter : Bool → List Char → Bool
  | waits, [] => waits
  | true, _ :: s => waitsAfter false s
  | false, c :: s => waitsAfter (c = '\\') s

def specialSets : List (List Char) := [bracketSpecials, elementSpecials, lineSpecials, idSpecials]

theorem special_reversible {specials : List Char} (used : specials ∈ specialSets) : Reversible specials := by
  simp only [specialSets, List.mem_cons, List.not_mem_nil, or_false] at used
  rcases used with rfl | rfl | rfl | rfl
  · exact bracket_reversible
  · exact element_reversible
  · exact line_reversible
  · exact id_reversible

namespace Sealed

variable {stops s : List Char}

theorem settled (closed : Sealed stops s) : waitsAfter false s = false := by
  induction closed with
  | nil => rfl
  | plain other _ _ ih => simpa [waitsAfter, other] using ih
  | pair c _ ih => simpa [waitsAfter] using ih

theorem marks_passed (closed : Sealed stops s) (i : Nat) : ∀ mark ∈ marksFrom false i s, mark.2 ∉ stops := by
  induction closed generalizing i with
  | nil => exact fun mark member => absurd member List.not_mem_nil
  | plain other passed _ ih =>
    rw [marks_sign other]
    exact List.forall_mem_cons.2 ⟨passed, ih _⟩
  | pair c _ ih =>
    rw [marks_pair]
    exact ih _

end Sealed

theorem first_mark_behind {stops s : List Char} {stop : Char} (closed : Sealed stops s) (member : stop ∈ stops)
    (other : stop ≠ '\\') (rest : List Char) : firstMark? stop (marks (s ++ stop :: rest)) = some (octetLength s) := by
  rw [marks, first_mark, cut_sealed closed member other, Option.map_some, Nat.zero_add]

/-- Escaped text reads back and stays on one line; no special character stands in it without a
    backslash in front, and it does not end within an escape. Escaped texts with a special
    character between them are the pieces their line is split into, and the first one that is
    found behind an escaped text is the one that was put there. -/
theorem escape_separates {specials : List Char} (used : specials ∈ specialSets) (s : List Char) :
    unescape (escape specials s) = s ∧ Unbroken (escape specials s) ∧
      (∀ mark ∈ marks (escape specials s), mark.2 ∉ specials) ∧ waitsAfter false (escape specials s) = false ∧
      ∀ sep ∈ specials, sep ≠ '\\' →
        (∀ pieces : List (List Char), pieces ≠ [] →
          splitUnescaped sep (joinWith [sep] (pieces.map (escape specials))) = pieces.map (escape specials) ∧
          splitByOffset sep (joinWith [sep] (pieces.map (escape specials))) = some (pieces.map (escape specials))) ∧
        ∀ rest, cutUnescaped sep (escape specials s ++ sep :: rest) = some (escape specials s, rest) ∧
          firstMark? sep (marks (escape specials s ++ sep :: rest)) = some (octetLength (escape specials s)) := by
  have reversible := special_reversible used
  have closed (t : List Char) : Sealed specials (escape specials t) := escape_sealed reversible (fun _ member => member) t
  refine ⟨unescape_escape reversible s, escape_unbroken reversible s, (closed s).marks_passed 0, (closed s).settled, ?_⟩
  intro sep member other
  refine ⟨fun pieces some => ?_, fun rest => ⟨?_, ?_⟩⟩
  · have split : splitUnescaped sep (joinWith [sep] (pieces.map (escape specials))) = pieces.map (escape specials) := by
      refine split_join (fun t inside => ?_) member other (by simpa using some)
      obtain ⟨piece, _, rfl⟩ := List.mem_map.1 inside
      exact closed piece
    exact ⟨split, by rw [split_by_offset, split]⟩
  · exact cut_sealed (closed s) member other rest
  · exact first_mark_behind (closed s) member other rest

theorem backslash_separated :
    let pieces := [['½', ',', '\\'], []]
    elementSpecials ∈ specialSets ∧ ',' ∈ elementSpecials ∧ ',' ≠ '\\' ∧ pieces ≠ [] ∧
      joinWith [','] (pieces.map (escape elementSpecials)) = ['½', '\\', ',', '\\', '\\', ','] ∧
      splitUnescaped ',' ['½', '\\', ',', '\\', '\\', ','] = [['½', '\\', ',', '\\', '\\'], []] ∧
      firstMark? ',' (marks ['½', '\\', ',', '\\', '\\', ',']) = some 6 := by
  intro pieces
  have separates := (@escape_separates elementSpecials (by decide) ['½', ',', '\\']).2.2.2.2 ','
    (by decide) (by decide)
  exact ⟨by decide, by decide, by decide, by decide, by decide, (separates.1 pieces (by decide)).1,
    (separates.2 []).2⟩

end Deckwright.Text
