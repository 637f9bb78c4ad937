import Deckwright.Deck.LineFile
import Deckwright.Proofs.Deck.Moves
import Deckwright.Proofs.Filter.Bracketed
import Deckwright.Proofs.Text.Natural
import Deckwright.Proofs.Text.Search
import Deckwright.Proofs.Text.Utf8
set_option autoImplicit false

namespace Deckwright

open Text (Unbroken Sealed Digits)

namespace LineFile

def OneLine (l : List Char) : Prop := '\n' ∉ l ∧ '\r' ∉ l

theorem one_line_append {s t : List Char} (left : OneLine s) (right : OneLine t) : OneLine (s ++ t) := by
  simp only [OneLine, List.mem_append, not_or]
  exact ⟨⟨left.1, right.1⟩, left.2, right.2⟩

theorem one_line_cons {c : Char} {s : List Char} (feed : c ≠ '\n') (turn : c ≠ '\r') (rest : OneLine s) :
    OneLine (c :: s) := by
  simp only [OneLine, List.mem_cons, not_or]
  exact ⟨⟨feed.symm, rest.1⟩, turn.symm, rest.2⟩

theorem unbroken_one_line {l : List Char} (unbroken : Unbroken l) : OneLine l :=
  ⟨fun feed => (unbroken _ feed).1 rfl, fun turn => (unbroken _ turn).2.1 rfl⟩

theorem digits_one_line {l : List Char} (digits : Digits l) : OneLine l := by
  refine ⟨fun feed => ?_, fun turn => ?_⟩
  · have digit := digits _ feed
    revert digit
    decide
  · have digit := digits _ turn
    revert digit
    decide

theorem ascii_absent {l : List Char} {c : Char} (absent : c ∉ l) (ascii : c.toNat < 0x80) :
    UInt8.ofNat c.toNat ∉ Text.toOctets l := by
  intro member
  obtain ⟨d, inside, here⟩ := List.mem_flatMap.1 member
  have value : (UInt8.ofNat c.toNat).toNat = c.toNat := Text.octet_value (by omega)
  have same : c = d := by
    rw [← Char.ofNat_toNat c, ← Char.ofNat_toNat d, ← Text.ascii_octet here (by omega), value]
  exact absent (same ▸ inside)

theorem octet_lines_ended {s : Text.Octets} (whole : newLine ∉ s) (reversed t : Text.Octets) :
    octetLinesFrom reversed (s ++ newLine :: t) = endLine (s.reverse ++ reversed) :: octetLinesFrom [] t := by
  induction s generalizing reversed with
  | nil => simp [octetLinesFrom]
  | cons b rest ih =>
    simp only [List.mem_cons, not_or] at whole
    rw [List.cons_append, octetLinesFrom, if_neg (Ne.symm whole.1), ih whole.2]
    simp

theorem end_line_same {s : Text.Octets} (plain : carriageReturn ∉ s) : endLine s.reverse = s := by
  unfold endLine
  split
  · rename_i none
    exact (List.reverse_eq_nil_iff.1 none).symm
  · rename_i b rest last
    have there : b ∈ s := by
      rw [← List.mem_reverse, last]
      exact List.mem_cons_self
    have away : b ≠ carriageReturn := fun same => plain (same ▸ there)
    rw [if_neg away, ← last, List.reverse_reverse]

theorem lines_written {ls : List (List Char)} (whole : ∀ l ∈ ls, OneLine l) :
    lines (Text.toOctets (ls.flatMap fun l => l ++ ['\n'])) = ls.map some := by
  have octets : octetLinesFrom [] (Text.toOctets (ls.flatMap fun l => l ++ ['\n'])) = ls.map Text.toOctets := by
    induction ls with
    | nil => rfl
    | cons l rest ih =>
      have feed : newLine ∉ Text.toOctets l := ascii_absent (c := '\n') (whole l (by simp)).1 (by decide)
      have turn : carriageReturn ∉ Text.toOctets l := ascii_absent (c := '\r') (whole l (by simp)).2 (by decide)
      have ended : Text.toOctets ['\n'] = [newLine] := by decide
      rw [List.flatMap_cons, Text.to_octets_append, Text.to_octets_append, ended, List.append_assoc,
        List.singleton_append, octet_lines_ended feed, List.append_nil, end_line_same turn,
        ih fun m member => whole m (List.mem_cons_of_mem l member)]
      rfl
  rw [lines, octets, List.map_map]
  exact List.map_congr_left fun l _ => Text.of_octets_to_octets l

section Numbers

theorem number_bare (n : Nat) : Text.Bare (Deck.natText n) :=
  Text.bare_of_all fun c member => Text.digit_not_blank (Text.nat_digits n c member)

theorem read_count {n : Nat} (within : n ≤ sizeLimit) (number : Nat) : readCount number (Deck.natText n) = .ok n := by
  have read : Text.readNatural sizeLimit (Deck.natText n) = .ok n := Text.read_natural_digits within
  unfold readCount
  dsimp only
  rw [Text.bare_trim (number_bare n), read]

theorem read_copies {n : UInt32} (positive : n ≠ 0) (number : Nat) :
    readCopies number (Deck.natText n.toNat) = .ok n := by
  have size := n.toNat_lt
  have within : n.toNat ≤ UInt32.size - 1 := by
    rw [show UInt32.size = 2 ^ 32 from rfl]
    omega
  have read : Text.readNatural (UInt32.size - 1) (Deck.natText n.toNat) = .ok n.toNat :=
    Text.read_natural_digits within
  have some : n.toNat ≠ 0 := fun zero => positive (UInt32.toNat_inj.mp zero)
  unfold readCopies
  dsimp only
  rw [Text.bare_trim (number_bare _), read]
  split
  · rename_i zero
    exact absurd (Except.ok.inj zero) some
  · rename_i m _ same
    rw [← Except.ok.inj same, UInt32.ofNat_toNat]
  · rename_i fault
    cases fault

end Numbers

section Entries

theorem entry_line_end (e : Entry) : Text.trimEnd (Deck.entryLine e) = Deck.entryLine e := by
  apply Text.trim_end_last
  have some : Deck.natText e.count.toNat ≠ [] := Nat.toDigits_ne_nil
  intro c last
  apply (number_bare e.count.toNat).last c
  rw [Deck.entryLine, List.getLast?_append, List.getLast?_cons] at last
  rw [List.getLast?_eq_some_getLast some] at last ⊢
  exact last

theorem read_entry {inventory : Inventory} {d : Deck} {e : Entry} (found : inventory.get? e.id = some e.card)
    (positive : e.count ≠ 0) (absent : d.position? e.id = none) (number : Nat) :
    readEntry inventory d number (Deck.entryLine e) = .ok (d.append e.card e.count) := by
  have unbroken := Text.escape_unbroken Text.id_reversible e.id.toList
  unfold readEntry
  rw [entry_line_end, Deck.entryLine, Text.cut_at_sign fun tab => (unbroken _ tab).2.2 rfl]
  dsimp only
  rw [Text.unescape_escape Text.id_reversible, String.ofList_toList, read_copies positive]
  dsimp only
  rw [found]
  dsimp only
  rw [Deck.add_absent positive absent]

end Entries

section Categories

-- A list that holds the empty id only is written like the list that holds none.
def readBack (ids : List CardId) : List CardId := if ids = [""] then [] else ids

theorem read_back_same {ids : List CardId} (other : ids ≠ [""]) : readBack ids = ids := if_neg other

def idTexts (ids : List CardId) : List (List Char) :=
  ids.map fun id => Text.escape Text.lineSpecials id.toList

theorem id_texts_sealed {stops : List Char} (within : ∀ c ∈ stops, c ∈ Text.lineSpecials) (ids : List CardId) :
    ∀ s ∈ idTexts ids, Sealed stops s := by
  intro s member
  obtain ⟨id, _, rfl⟩ := List.mem_map.1 member
  exact Text.escape_sealed Text.line_reversible within id.toList

theorem read_id_texts (ids : List CardId) :
    (idTexts ids).map (fun s => String.ofList (Text.unescape s)) = ids := by
  rw [idTexts, List.map_map]
  refine (List.map_congr_left fun id _ => ?_).trans (List.map_id ids)
  simp [Text.unescape_escape Text.line_reversible]

theorem joined_ids_nil {ids : List CardId} (none : Text.joinWith [':'] (idTexts ids) = []) : readBack ids = [] := by
  cases ids with
  | nil => simp [readBack]
  | cons id rest =>
    cases rest with
    | nil =>
      have back := congrArg Text.unescape none
      rw [idTexts, List.map_singleton, Text.joinWith, Text.unescape_escape Text.line_reversible] at back
      have empty : id = "" := String.toList_eq_nil_iff.1 back
      simp [readBack, empty]
    | cons other rest => simp [idTexts, Text.joinWith] at none

theorem read_back_of_joined {ids : List CardId} (some : Text.joinWith [':'] (idTexts ids) ≠ []) :
    readBack ids = ids := by
  refine read_back_same ?_
  rintro rfl
  exact some rfl

theorem take_ids (ids : List CardId) (rest : List Char) :
    takeIds (Deck.idList ids ++ rest) = .ok (readBack ids, rest) := by
  have shape : Deck.idList ids ++ rest = '<' :: (Text.joinWith [':'] (idTexts ids) ++ '>' :: rest) := by
    simp [Deck.idList, idTexts]
  have closed : Sealed ['>'] (Text.joinWith [':'] (idTexts ids)) :=
    Text.join_sealed (by decide) (by decide) (id_texts_sealed (by simp [Text.lineSpecials]) ids)
  have start : Text.trimStart ('<' :: (Text.joinWith [':'] (idTexts ids) ++ '>' :: rest)) =
      '<' :: (Text.joinWith [':'] (idTexts ids) ++ '>' :: rest) := Text.trim_start_head (by simp [Text.isBlank])
  have cut : Text.cutUnescaped '>' (Text.joinWith [':'] (idTexts ids) ++ '>' :: rest) =
      some (Text.joinWith [':'] (idTexts ids), rest) := Text.cut_sealed closed (by simp) (by decide) rest
  rw [shape, takeIds, start]
  simp only [cut]
  cases joined : Text.joinWith [':'] (idTexts ids) with
  | nil => rw [joined_ids_nil joined]
  | cons c tail =>
    have held : Text.joinWith [':'] (idTexts ids) ≠ [] := by simp [joined]
    have some : idTexts ids ≠ [] := fun none => held (by rw [none]; rfl)
    have parted : ∀ s ∈ idTexts ids, Sealed [':'] s := id_texts_sealed (by simp [Text.lineSpecials]) ids
    have split : Text.splitUnescaped ':' (Text.joinWith [':'] (idTexts ids)) = idTexts ids :=
      Text.split_join parted (by simp) (by decide) some
    dsimp only
    rw [← joined, split, read_id_texts, read_back_of_joined held]

theorem take_ids_blank (ids : List CardId) (rest : List Char) :
    takeIds (' ' :: (Deck.idList ids ++ rest)) = .ok (readBack ids, rest) := by
  have start : Text.trimStart (' ' :: (Deck.idList ids ++ rest)) = Text.trimStart (Deck.idList ids ++ rest) := by
    simp [Text.trimStart, Text.isBlank]
  rw [← take_ids ids rest, takeIds, takeIds, start]

theorem category_line_parts (c : CategorySpec) :
    Deck.categoryLine c = (Text.escape Text.lineSpecials c.name.toList ++ [' ']) ++
      '<' :: (Text.joinWith [':'] (idTexts c.whitelist) ++ '>' ::
        (' ' :: (Deck.idList c.blacklist ++ ' ' :: c.filter.written))) := by
  simp [Deck.categoryLine, Deck.idList, idTexts]

theorem drop_blank_end (s : List Char) : dropBlankEnd (s ++ [' ']) = s := by
  simp [dropBlankEnd]

theorem read_category {c : CategorySpec} (canonical : c.filter.Canonical) (number : Nat) :
    readCategory number (Deck.categoryLine c) =
      .ok ⟨c.name, c.filter, readBack c.whitelist, readBack c.blacklist, Swatch.black⟩ := by
  have named : Sealed ['<'] (Text.escape Text.lineSpecials c.name.toList ++ [' ']) :=
    (Text.escape_sealed Text.line_reversible (by simp [Text.lineSpecials]) _).append
      (.plain (by decide) (by decide) .nil)
  have bare : Text.Bare c.filter.written := (Filter.written_bracketed canonical).bare
  have filter : Text.trim (' ' :: c.filter.written) = c.filter.written := by
    rw [Text.trim_of_cons (by decide), Text.bare_trim bare]
  have white := take_ids c.whitelist (' ' :: (Deck.idList c.blacklist ++ ' ' :: c.filter.written))
  rw [show Deck.idList c.whitelist = '<' :: Text.joinWith [':'] (idTexts c.whitelist) ++ ['>'] from rfl] at white
  simp only [List.cons_append, List.append_assoc, List.nil_append] at white
  unfold readCategory
  rw [category_line_parts, Text.cut_sealed named (by simp) (by decide)]
  dsimp only
  rw [white, drop_blank_end, Text.unescape_escape Text.line_reversible, String.ofList_toList]
  dsimp only
  rw [take_ids_blank]
  dsimp only
  rw [filter, Filter.read_written canonical]

theorem id_list_one_line (ids : List CardId) : OneLine (Deck.idList ids) := by
  have each : ∀ s ∈ idTexts ids, OneLine s := by
    intro s member
    obtain ⟨id, _, rfl⟩ := List.mem_map.1 member
    exact unbroken_one_line (Text.escape_unbroken Text.line_reversible id.toList)
  have joined : OneLine (Text.joinWith [':'] (idTexts ids)) :=
    Text.join_keeps (by simp [OneLine]) one_line_append (by simp [OneLine]) each
  exact one_line_cons (by decide) (by decide) (one_line_append joined (by simp [OneLine]))

theorem category_one_line {c : CategorySpec} (canonical : c.filter.Canonical) : OneLine (Deck.categoryLine c) := by
  have name := unbroken_one_line (Text.escape_unbroken Text.line_reversible c.name.toList)
  have filter := unbroken_one_line (Filter.written_unbroken canonical)
  have blank {s : List Char} (rest : OneLine s) : OneLine (' ' :: s) := one_line_cons (by decide) (by decide) rest
  exact one_line_append (one_line_append (one_line_append name (blank (id_list_one_line _)))
    (blank (id_list_one_line _))) (blank filter)

theorem entry_one_line (e : Entry) : OneLine (Deck.entryLine e) :=
  one_line_append (unbroken_one_line (Text.escape_unbroken Text.id_reversible e.id.toList))
    (one_line_cons (by decide) (by decide) (digits_one_line (Text.nat_digits _)))

end Categories

end LineFile

end Deckwright
