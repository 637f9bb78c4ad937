import Deckwright.Deck.Document
import Deckwright.Proofs.Filter.Nesting
set_option autoImplicit false

namespace Deckwright

open Json.Read (Reads Fills fills_none fills_next reads_record reads_list reads_text reads_texts reads_word32)

namespace Swatch

theorem channel_text (b : UInt8) : channel? (upperHexDigit (b.toNat / 16)) (upperHexDigit (b.toNat % 16)) = some b := by
  have digit : ∀ n < 16, Json.hexValue? (upperHexDigit n) = some n := by decide
  have size := b.toNat_lt
  have value : b.toNat / 16 * 16 + b.toNat % 16 = b.toNat := by omega
  rw [channel?, digit _ (by omega), digit _ (by omega)]
  change some (UInt8.ofNat (b.toNat / 16 * 16 + b.toNat % 16)) = some b
  rw [value, UInt8.ofNat_toNat]

theorem text_bare (s : Swatch) : Text.Bare s.text := by
  have digit : ∀ n < 16, Text.isBlank (upperHexDigit n) = false := by decide
  have channel (b : UInt8) : ∀ c ∈ channelText b, Text.isBlank c = false := by
    have size := b.toNat_lt
    intro c member
    rcases List.mem_cons.1 member with rfl | member
    · exact digit _ (by omega)
    · rw [List.mem_singleton.1 member]
      exact digit _ (by omega)
  refine Text.bare_of_all fun c member => ?_
  rcases List.mem_append.1 member with front | blue
  · rcases List.mem_cons.1 front with rfl | front
    · decide
    · rcases List.mem_append.1 front with red | green
      · exact channel _ c red
      · exact channel _ c green
  · exact channel _ c blue

theorem read_text (s : Swatch) : read s.toText = .ok s := by
  have digits : dropSign s.text = channelText s.red ++ (channelText s.green ++ channelText s.blue) := rfl
  have whole : ofDigits? (dropSign s.text) = some s := by
    rw [digits]
    simp only [channelText, List.cons_append, List.nil_append, ofDigits?, channel_text]
    rfl
  rw [read, toText, String.toList_ofList, Text.bare_trim (text_bare s), whole]

end Swatch

theorem reads_swatch (s : Swatch) : Reads Json.Read.swatch (.text s.toText) s := by
  intro levels
  have text : Json.Read.text levels (Json.drafted (.text s.toText)) = .ok s.toText := rfl
  rw [Json.Read.swatch, text]
  dsimp only
  rw [Swatch.read_text]
  rfl

theorem reads_entry (e : EntryRecord) : Reads EntryRecord.reader e.toJson e := by
  refine reads_record (t := ⟨some e.id, some e.count⟩) ?_ rfl
  exact fills_next (reads_text e.id) rfl rfl (fills_next (reads_word32 e.count) rfl rfl (fills_none _ _))

theorem reads_category {c : CategorySpec} (canonical : c.filter.Canonical) : Reads CategorySpec.reader c.toJson c := by
  refine reads_record (t := ⟨some c.name, some c.filter, some c.whitelist, some c.blacklist, some c.swatch⟩) ?_ rfl
  exact fills_next (reads_text c.name) rfl rfl
    (fills_next (Filter.reads_filter canonical) rfl rfl
      (fills_next (reads_texts c.whitelist) rfl rfl
        (fills_next (reads_texts c.blacklist) rfl rfl
          (fills_next (reads_swatch c.swatch) rfl rfl (fills_none _ _)))))

theorem reads_deck {r : DeckRecord} (canonical : ∀ c ∈ r.categories, c.filter.Canonical) :
    Reads DeckRecord.reader r.toJson r := by
  have cards := reads_list fun (e : EntryRecord) (_ : e ∈ r.cards) => reads_entry e
  have categories := reads_list fun c member => reads_category (canonical c member)
  refine reads_record (t := ⟨some r.cards, some r.categories⟩) ?_ rfl
  exact fills_next cards rfl rfl (fills_next categories rfl rfl (fills_none _ _))

theorem reads_document {doc : DeckDocument} (main : ∀ c ∈ doc.main.categories, c.filter.Canonical)
    (side : ∀ c ∈ doc.sideboard.categories, c.filter.Canonical) : Reads DeckDocument.reader doc.toJson doc := by
  refine reads_record (t := ⟨some doc.main, some doc.sideboard, some doc.notes⟩) ?_ rfl
  exact fills_next (reads_deck main) rfl rfl
    (fills_next (reads_deck side) rfl rfl (fills_next (reads_text doc.notes) rfl rfl (fills_none _ _)))

theorem category_depth (c : CategorySpec) {n : Nat} (room : 2 ≤ n) :
    c.toJson.depth ≤ n ↔ c.filter.toJson.depth + 1 ≤ n := by
  simp only [CategorySpec.toJson, Json.depth, Json.fieldsDepth, Json.texts_depth]
  omega

theorem deck_depth (r : DeckRecord) {n : Nat} (room : 4 ≤ n) :
    r.toJson.depth ≤ n ↔ ∀ c ∈ r.categories, c.filter.toJson.depth + 3 ≤ n := by
  have cards : Json.itemsDepth (r.cards.map EntryRecord.toJson) ≤ 1 := by
    refine Json.items_depth.2 fun j member => ?_
    obtain ⟨e, _, rfl⟩ := List.mem_map.1 member
    exact Nat.le_refl 1
  have categories : Json.itemsDepth (r.categories.map CategorySpec.toJson) ≤ n - 2 ↔
      ∀ c ∈ r.categories, c.filter.toJson.depth + 1 ≤ n - 2 := by
    rw [Json.items_depth, List.forall_mem_map]
    exact forall₂_congr fun c _ => category_depth c (by omega)
  have outer : r.toJson.depth ≤ n ↔ Json.itemsDepth (r.categories.map CategorySpec.toJson) ≤ n - 2 := by
    simp only [DeckRecord.toJson, Json.depth, Json.fieldsDepth]
    omega
  rw [outer, categories]
  exact forall₂_congr fun c _ => by omega

theorem document_depth (doc : DeckDocument) {n : Nat} (room : 5 ≤ n) :
    doc.toJson.depth ≤ n ↔
      ∀ c ∈ doc.main.categories ++ doc.sideboard.categories, c.filter.toJson.depth + 4 ≤ n := by
  have outer : doc.toJson.depth ≤ n ↔ doc.main.toJson.depth ≤ n - 1 ∧ doc.sideboard.toJson.depth ≤ n - 1 := by
    simp only [DeckDocument.toJson, Json.depth, Json.fieldsDepth]
    omega
  rw [outer, deck_depth _ (by omega), deck_depth _ (by omega), List.forall_mem_append]
  exact and_congr (forall₂_congr fun c _ => by omega) (forall₂_congr fun c _ => by omega)

open Json (Faithful)

theorem entry_faithful (e : EntryRecord) : e.toJson.Faithful := by
  have size := e.count.toNat_lt
  refine .record fun field member => ?_
  simp only [List.mem_cons, List.not_mem_nil, or_false] at member
  rcases member with rfl | rfl
  · exact .text _
  · exact .integer (by omega) (by rw [Json.largestWord]; omega)

theorem category_faithful {c : CategorySpec} (canonical : c.filter.Canonical) (legible : c.filter.Legible) :
    c.toJson.Faithful := by
  refine .record fun field member => ?_
  simp only [List.mem_cons, List.not_mem_nil, or_false] at member
  rcases member with rfl | rfl | rfl | rfl | rfl
  · exact .text _
  · exact Filter.to_json_faithful canonical legible
  · exact Json.texts_faithful _
  · exact Json.texts_faithful _
  · exact .text _

theorem deck_faithful {r : DeckRecord} (held : ∀ c ∈ r.categories, c.filter.Canonical ∧ c.filter.Legible) :
    r.toJson.Faithful := by
  refine .record fun field member => ?_
  simp only [List.mem_cons, List.not_mem_nil, or_false] at member
  rcases member with rfl | rfl
  · refine .list fun j here => ?_
    obtain ⟨e, _, rfl⟩ := List.mem_map.1 here
    exact entry_faithful e
  · refine .list fun j here => ?_
    obtain ⟨c, there, rfl⟩ := List.mem_map.1 here
    exact category_faithful (held c there).1 (held c there).2

theorem document_faithful {doc : DeckDocument} (main : ∀ c ∈ doc.main.categories, c.filter.Canonical ∧ c.filter.Legible)
    (side : ∀ c ∈ doc.sideboard.categories, c.filter.Canonical ∧ c.filter.Legible) : doc.toJson.Faithful := by
  refine .record fun field member => ?_
  simp only [List.mem_cons, List.not_mem_nil, or_false] at member
  rcases member with rfl | rfl | rfl
  · exact deck_faithful main
  · exact deck_faithful side
  · exact .text _

namespace DeckDocument

/-- The file of a document whose numbers are read back is read as the document if its filters leave
    the four levels above them within the limit of the reader, and refused as malformed if not. -/
theorem file_read_back {doc : DeckDocument}
    (held : ∀ c ∈ doc.main.categories ++ doc.sideboard.categories, c.filter.Made ∧ c.filter.Legible) :
    ofOctets (Text.toOctets doc.toText.toList) =
      if ∀ c ∈ doc.main.categories ++ doc.sideboard.categories, c.filter.toJson.depth + 4 ≤ Json.levelLimit then
        .ok doc
      else .error (.json .malformed) := by
  have canonical : ∀ c ∈ doc.main.categories ++ doc.sideboard.categories, c.filter.Canonical ∧ c.filter.Legible :=
    fun c member => ⟨Filter.made_canonical (held c member).1, (held c member).2⟩
  obtain ⟨main, side⟩ := List.forall_mem_append.1 canonical
  have read := reads_document (fun c member => (main c member).1) (fun c member => (side c member).1) Json.levelLimit
  have fits := document_depth doc (show 5 ≤ Json.levelLimit by decide)
  rw [ofOctets, toText, Json.decode_indented (document_faithful main side), read, Json.Read.within]
  by_cases deep : doc.toJson.depth ≤ Json.levelLimit
  · rw [if_pos deep, if_pos (fits.1 deep)]
    rfl
  · rw [if_neg deep, if_neg fun all => deep (fits.2 all)]
    rfl

theorem deepest_read_back :
    let dear : Filter := .leaf ⟨.manaValue, .compare .atLeast, .number ⟨0x4004000000000000⟩⟩
    let doc (k : Nat) : DeckDocument := ⟨⟨[⟨"bear", 4⟩], [⟨"Dear", dear.buried k, ["bear"], [], .black⟩]⟩, .empty, ""⟩
    ofOctets (Text.toOctets (doc 61).toText.toList) = .ok (doc 61) ∧
      ofOctets (Text.toOctets (doc 62).toText.toList) = .error (.json .malformed) := by
  intro dear doc
  have number : Filter.ofNumber .manaValue .atLeast ⟨0x4004000000000000⟩ = .ok dear := rfl
  have made : dear.Made := .number number
  have legible : dear.Legible := by
    intro l member x same
    obtain rfl := List.mem_singleton.1 member
    obtain rfl := Operand.number.inj same
    decide +kernel
  have held (k : Nat) : ∀ c ∈ (doc k).main.categories ++ (doc k).sideboard.categories,
      c.filter.Made ∧ c.filter.Legible := by
    intro c member
    obtain rfl := List.mem_singleton.1 member
    exact ⟨Filter.buried_made made k, Filter.buried_legible legible k⟩
  have depth (k : Nat) : (dear.buried k).toJson.depth = 1 + 2 * k := Filter.buried_depth dear k
  constructor
  · rw [file_read_back (held 61), if_pos]
    intro c member
    obtain rfl := List.mem_singleton.1 member
    rw [depth]
    decide
  · rw [file_read_back (held 62), if_neg]
    intro all
    have deep := all _ (List.mem_singleton.2 rfl)
    rw [depth] at deep
    exact absurd deep (by decide)

end DeckDocument

end Deckwright
