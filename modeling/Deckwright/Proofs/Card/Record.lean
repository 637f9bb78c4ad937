import Deckwright.Card.Record
import Deckwright.Proofs.Json.Decoder
import Deckwright.Proofs.Json.Printer
import Deckwright.Proofs.Mana.Value
import Deckwright.Proofs.Ordered
set_option autoImplicit false

namespace Deckwright

open Json (Faithful)
open Json.Read (Reads Takes fills_next fills_none reads_bool reads_entries reads_record reads_text reads_texts reads_word32
  takes_binary64 takes_list takes_next takes_none takes_of_reads takes_optional takes_read takes_record)

def Face.numbers (f : Face) : List Binary64 := [f.power, f.toughness, f.loyalty].filterMap fun s => s.map Stat.value

def Card.numbers (c : Card) : List Binary64 := c.manaValue :: c.faces.flatMap Face.numbers

section Fields

theorem reads_cost (c : ManaCost) : Reads Json.Read.manaCost c.toJson c := by
  refine reads_record (t := ⟨some (c.symbols.map ManaSymbol.name)⟩) ?_ ?_
  · exact fills_next (reads_texts _) rfl rfl (fills_none _ _)
  · obtain ⟨symbols⟩ := c
    have same : (symbols.map ManaSymbol.name).map ManaSymbol.mk = symbols := by
      rw [List.map_map]
      exact List.map_id symbols
    exact congrArg (fun symbols => some (ManaCost.mk symbols)) same

theorem reads_colors (s : ColorSet) : Reads Json.Read.colorSet s.toJson s := by
  intro levels
  have size := s.mask.toNat_lt
  have small : (s.mask.toNat : Int) ≤ (255 : Nat) := by omega
  have read : Json.Read.natural 255 levels (Json.drafted s.toJson) = .ok s.mask.toNat := by
    rw [ColorSet.toJson, Json.ofNat, Json.drafted, Json.Read.natural, if_pos (by simpa using small), Int.toNat_natCast]
  rw [Json.Read.colorSet, read]
  exact congrArg (fun mask => Except.ok (ColorSet.mk mask)) UInt8.ofNat_toNat

theorem reads_text_set (s : OrderedSet String) : Reads Json.Read.textSet (Json.texts s.toList) s := by
  intro levels
  rw [Json.Read.textSet, reads_texts, Json.Read.within_map, OrderedSet.of_list_to_list]

theorem reads_named {α : Type} {ofName : String → Option α} {key : String} {a : α} (known : ofName key = some a) :
    Reads (Json.Read.named ofName) (.text key) a := by
  intro levels
  rw [Json.drafted, Json.Read.named]
  dsimp only
  rw [known]
  rfl

theorem reads_layout (l : Layout) : Reads (Json.Read.named Layout.ofName?) (.text l.name) l :=
  reads_named (by cases l <;> decide)

theorem reads_rarity (r : Rarity) : Reads (Json.Read.named Rarity.ofKey?) (.text r.key) r :=
  reads_named (by cases r <;> decide)

theorem reads_legality (l : Legality) : Reads (Json.Read.named Legality.ofKey?) (.text l.key) l :=
  reads_named (by cases l <;> decide)

theorem reads_expansion (e : Expansion) : Reads Json.Read.expansion e.toJson e := by
  refine reads_record (t := ⟨some e.name, some e.block, some e.code, some e.releaseDate⟩) ?_ rfl
  exact fills_next (reads_text _) rfl rfl
    (fills_next (reads_text _) rfl rfl
      (fills_next (reads_text _) rfl rfl (fills_next (reads_text _) rfl rfl (fills_none _ _))))

theorem takes_stat (s : Stat) : Takes Json.Read.stat s.toJson s.value.isFinite s := by
  rw [← Bool.and_true s.value.isFinite]
  refine takes_record (t := ⟨some s.text, some s.value⟩) ?_ rfl
  exact takes_read (reads_text _) rfl rfl (takes_next (takes_binary64 _) rfl rfl (takes_none _ _))

theorem takes_stat_field (o : Option Stat) :
    Takes (Json.Read.optional Json.Read.stat) (Json.ofOption Stat.toJson o) (o.all fun s => s.value.isFinite) o :=
  takes_optional (fun _ _ => nofun) fun s _ => takes_stat s

theorem takes_face (f : Face) : Takes Json.Read.face f.toJson (f.numbers.all Binary64.isFinite) f := by
  have sound : ((f.power.all fun s => s.value.isFinite) && ((f.toughness.all fun s => s.value.isFinite) &&
      ((f.loyalty.all fun s => s.value.isFinite) && true))) = f.numbers.all Binary64.isFinite := by
    unfold Face.numbers
    cases f.power <;> cases f.toughness <;> cases f.loyalty <;> simp
  rw [← sound]
  refine takes_record (t := ⟨some f.name, some f.cost, some f.colors, some f.supertypes, some f.types, some f.subtypes,
    some f.typeLine, some f.rules, some f.flavor, some f.power, some f.toughness, some f.loyalty, some f.artist,
    some f.number, some f.plainName, some f.plainRules, some f.plainFlavor⟩) ?_ rfl
  refine takes_read (reads_text _) rfl rfl <| takes_read (reads_cost _) rfl rfl <| takes_read (reads_colors _) rfl rfl <|
    takes_read (reads_text_set _) rfl rfl <| takes_read (reads_text_set _) rfl rfl <|
    takes_read (reads_text_set _) rfl rfl <| takes_read (reads_text _) rfl rfl <| takes_read (reads_text _) rfl rfl <|
    takes_read (reads_text _) rfl rfl <| takes_next (takes_stat_field _) rfl rfl <|
    takes_next (takes_stat_field _) rfl rfl <| takes_next (takes_stat_field _) rfl rfl <| ?_
  exact takes_read (reads_text _) rfl rfl <| takes_read (reads_text _) rfl rfl <| takes_read (reads_text _) rfl rfl <|
    takes_read (reads_text _) rfl rfl <| takes_read (reads_text _) rfl rfl <| takes_none _ _

theorem reads_legalities (m : OrderedMap String Legality) :
    Reads Json.Read.legalities (.record (m.entries.map fun e => (e.1, .text e.2.key))) m := by
  intro levels
  have read : Reads (Json.Read.entries (Json.Read.named Legality.ofKey?))
      (.record (m.entries.map fun e => (e.1, .text e.2.key))) m.entries :=
    @reads_entries _ _ (fun l : Legality => .text l.key) _ fun e _ => reads_legality e.2
  rw [Json.Read.legalities, read, Json.Read.within_map, OrderedMap.of_list_entries]

theorem takes_multiverse_id (o : Option UInt32) :
    Takes (Json.Read.optional Json.Read.word32) (Json.ofOption (fun n => Json.ofNat n.toNat) o) true o := by
  have each : ∀ n ∈ o, Takes Json.Read.word32 (Json.ofNat n.toNat) ((fun _ => true) n) n :=
    fun n _ => takes_of_reads (reads_word32 n)
  have sound : (o.all fun _ => true) = true := by cases o <;> rfl
  rw [← sound]
  exact takes_optional (fun _ _ => nofun) each

theorem takes_card (c : Card) : Takes Json.Read.card c.toJson (c.numbers.all Binary64.isFinite) c := by
  have sound : ((c.faces.all fun f => f.numbers.all Binary64.isFinite) && (c.manaValue.isFinite && true)) =
      c.numbers.all Binary64.isFinite := by
    rw [Card.numbers, List.all_cons, List.all_flatMap, Bool.and_true, Bool.and_comm]
  rw [← sound]
  refine takes_record (t := ⟨some c.id, some c.layout, some c.faces, some c.manaValue, some c.identity, some c.expansion,
    some c.rarity, some c.legality, some c.multiverseId, some c.isLand, some c.anyNumber⟩) ?_ rfl
  refine takes_read (reads_text _) rfl rfl <| takes_read (reads_layout _) rfl rfl <|
    takes_next (takes_list fun f _ => takes_face f) rfl rfl <| takes_next (takes_binary64 _) rfl rfl <|
    takes_read (reads_colors _) rfl rfl <| takes_read (reads_expansion _) rfl rfl <|
    takes_read (reads_rarity _) rfl rfl <| takes_read (reads_legalities _) rfl rfl <| ?_
  exact takes_next (takes_multiverse_id _) rfl rfl <| takes_read (reads_bool _) rfl rfl <|
    takes_read (reads_bool _) rfl rfl <| takes_none _ _

end Fields

section Depth

theorem binary64_depth (x : Binary64) : (Json.ofBinary64 x).depth = 0 := by
  rw [Json.ofBinary64]
  cases x.isFinite <;> rfl

theorem nat_depth (n : Nat) : (Json.ofNat n).depth = 0 := rfl

theorem stat_depth (o : Option Stat) : (Json.ofOption Stat.toJson o).depth ≤ 1 := by
  cases o with
  | none => decide
  | some s => simp [Json.ofOption, Stat.toJson, Json.depth, Json.fieldsDepth, binary64_depth]

theorem face_depth (f : Face) : f.toJson.depth ≤ 3 := by
  have power := stat_depth f.power
  have toughness := stat_depth f.toughness
  have loyalty := stat_depth f.loyalty
  simp only [Face.toJson, ManaCost.toJson, ColorSet.toJson, nat_depth, Json.depth, Json.fieldsDepth, Json.texts_depth]
  omega

theorem card_depth (c : Card) : c.toJson.depth ≤ 5 := by
  have faces : Json.itemsDepth (c.faces.map Face.toJson) ≤ 3 :=
    Json.items_depth.2 (List.forall_mem_map.2 fun f _ => face_depth f)
  have legality : Json.fieldsDepth (c.legality.entries.map fun e => (e.1, .text e.2.key)) ≤ 0 :=
    Json.fields_depth.2 (List.forall_mem_map.2 fun e _ => Nat.le_refl 0)
  have multiverse : (Json.ofOption (fun n => Json.ofNat n.toNat) c.multiverseId).depth = 0 := by
    cases c.multiverseId <;> rfl
  simp only [Card.toJson, ColorSet.toJson, Expansion.toJson, nat_depth, Json.depth, Json.fieldsDepth, binary64_depth,
    multiverse]
  omega

end Depth

section Text

theorem stat_faithful {o : Option Stat} (legible : ∀ s ∈ o, s.value.isFinite = true → s.value.ReadsBack) :
    (Json.ofOption Stat.toJson o).Faithful := by
  refine Json.of_option_faithful fun s member => .record fun field here => ?_
  simp only [List.mem_cons, List.not_mem_nil, or_false] at here
  rcases here with rfl | rfl
  · exact .text _
  · exact Json.of_binary64_faithful (legible s member)

theorem cost_faithful (c : ManaCost) : c.toJson.Faithful := by
  refine .record fun field here => ?_
  obtain rfl := List.mem_singleton.1 here
  exact Json.texts_faithful _

theorem colors_faithful (s : ColorSet) : s.toJson.Faithful := by
  have size := s.mask.toNat_lt
  exact Json.of_nat_faithful (by rw [Json.largestWord]; omega)

theorem expansion_faithful (e : Expansion) : e.toJson.Faithful := by
  refine .record fun field here => ?_
  simp only [List.mem_cons, List.not_mem_nil, or_false] at here
  rcases here with rfl | rfl | rfl | rfl <;> exact .text _

theorem face_faithful {f : Face} (legible : ∀ x ∈ f.numbers, x.isFinite = true → x.ReadsBack) : f.toJson.Faithful := by
  have stat {o : Option Stat} (printed : o ∈ [f.power, f.toughness, f.loyalty]) : (Json.ofOption Stat.toJson o).Faithful :=
    stat_faithful fun s here => legible s.value (List.mem_filterMap.2 ⟨o, printed, by rw [here]; rfl⟩)
  refine .record fun field here => ?_
  simp only [List.mem_cons, List.not_mem_nil, or_false] at here
  rcases here with rfl | rfl | rfl | rfl | rfl | rfl | rfl | rfl | rfl | rfl | rfl | rfl | rfl | rfl | rfl | rfl | rfl
  all_goals first
    | exact .text _
    | exact Json.texts_faithful _
    | exact cost_faithful _
    | exact colors_faithful _
    | exact stat (by simp)

theorem card_faithful {c : Card} (legible : ∀ x ∈ c.numbers, x.isFinite = true → x.ReadsBack) : c.toJson.Faithful := by
  have face {f : Face} (member : f ∈ c.faces) : f.toJson.Faithful :=
    face_faithful fun x here => legible x (List.mem_cons_of_mem _ (List.mem_flatMap.2 ⟨f, member, here⟩))
  refine .record fun field here => ?_
  simp only [List.mem_cons, List.not_mem_nil, or_false] at here
  rcases here with rfl | rfl | rfl | rfl | rfl | rfl | rfl | rfl | rfl | rfl | rfl
  · exact .text _
  · exact .text _
  · exact .list (List.forall_mem_map.2 fun f => face)
  · exact Json.of_binary64_faithful (legible _ List.mem_cons_self)
  · exact colors_faithful _
  · exact expansion_faithful _
  · exact .text _
  · exact .record (List.forall_mem_map.2 fun e _ => .text _)
  · refine Json.of_option_faithful fun n _ => Json.of_nat_faithful ?_
    have size := n.toNat_lt
    rw [Json.largestWord]
    omega
  · exact .bool _
  · exact .bool _

end Text

namespace Card

/-- The text of a card whose finite numbers are read back is read as the card if all its numbers are
    finite, and refused if one is not. Where the mana value is what the costs come to, a cost that
    was read is enough for that, if one of its symbols is endless or has a number in it that is too
    large. -/
theorem text_read_back {c : Card} (legible : ∀ x ∈ c.numbers, x.isFinite = true → x.ReadsBack) :
    (ofJsonText c.toJsonText.toList =
      if ∀ x ∈ c.numbers, x.isFinite = true then .ok c else .error .mismatch) ∧
    (c.manaValue = Binary64.sum (c.faces.map fun f => f.cost.manaValue) →
      ∀ f ∈ c.faces, ∀ s, ManaCost.read s = .ok f.cost →
        ∀ m ∈ f.cost.symbols, m.name = "∞" ∨ (∃ n ∈ m.numbers, Binary64.wholeLimit ≤ n) →
          ofJsonText c.toJsonText.toList = .error .mismatch) := by
  have read : ofJsonText c.toJsonText.toList = if ∀ x ∈ c.numbers, x.isFinite = true then .ok c else .error .mismatch := by
    have enough : c.toJson.depth ≤ Json.levelLimit := Nat.le_trans (card_depth c) (by decide)
    rw [ofJsonText, toJsonText, Json.decode_compact (card_faithful legible), takes_card c _ enough, Json.Read.given]
    simp only [List.all_eq_true]
  refine ⟨read, fun sum f face s found m symbol endless => ?_⟩
  have cost : f.cost.manaValue.isFinite = false := ManaCost.value_endless found symbol endless
  have value : c.manaValue.isFinite = false := by
    rw [sum]
    exact Binary64.sum_endless (List.mem_map_of_mem face) cost
  rw [read, if_neg fun all => ?_]
  rw [all _ List.mem_cons_self] at value
  exact Bool.noConfusion value

theorem endless_cost_refused :
    let made (cost : ManaCost) : Card :=
      ofFaces "lotus" ⟨"Unhinged", "", "UNH", "2004-11-19"⟩ .rare [(Face.ofName "Mox Lotus").withCost cost]
    let three : ManaCost := ⟨[⟨"2"⟩, ⟨"R"⟩]⟩
    let endless : ManaCost := ⟨[⟨"∞"⟩]⟩
    ManaCost.read "{2}{r}" = .ok three ∧ ManaCost.read "{∞}" = .ok endless ∧
      ofJsonText (made three).toJsonText.toList = .ok (made three) ∧
      ofJsonText (made endless).toJsonText.toList = .error .mismatch := by
  intro made three endless
  have numbers (cost : ManaCost) : (made cost).numbers = [Binary64.sum [cost.manaValue]] := rfl
  have finite : (Binary64.sum [three.manaValue]).isFinite = true ∧ (Binary64.sum [three.manaValue]).ReadsBack := by
    decide +kernel
  have infinite : (Binary64.sum [endless.manaValue]).isFinite = false := by decide +kernel
  have read : ManaCost.read "{∞}" = .ok endless := by decide
  refine ⟨by decide, read, ?_, ?_⟩
  · have legible : ∀ x ∈ (made three).numbers, x.isFinite = true → x.ReadsBack := by
      rw [numbers, List.forall_mem_singleton]
      exact fun _ => finite.2
    rw [(text_read_back legible).1, if_pos]
    rw [numbers, List.forall_mem_singleton]
    exact finite.1
  · have legible : ∀ x ∈ (made endless).numbers, x.isFinite = true → x.ReadsBack := by
      rw [numbers, List.forall_mem_singleton, infinite]
      exact nofun
    exact (text_read_back legible).2 rfl _ (List.mem_singleton_self _) _ read _ (List.mem_singleton_self _) (.inl rfl)

end Card

end Deckwright
