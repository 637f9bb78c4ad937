import Deckwright.Proofs.Filter.Bracketed
import Deckwright.Proofs.Json.Lookup
set_option autoImplicit false

/- The writer chooses the keys by the operand and the reader by the kind of the aspect; the check of a leaf is
   what makes them the same. -/
namespace Deckwright

theorem Mode.of_code {m : Mode} (coded : m ≠ .always) : ofCode? m.code = some m := by
  cases m with
  | contains c => cases c <;> rfl
  | compare c => cases c <;> rfl
  | missing => rfl
  | variable_ => rfl
  | always => exact absurd rfl coded

namespace Filter

def leafFields (l : Leaf) : Fields :=
  l.operand.fields ++ (if l.aspect.kind = .constant then [] else [("mode", Json.text l.mode.code)]) ++
    [("type", Json.text l.aspect.code)]

theorem leaf_record (l : Leaf) : leafRecord l = .record (Json.mapping (leafFields l)) := rfl

theorem leaf_type (l : Leaf) : Json.lookup "type" (Json.mapping (leafFields l)) = some (.text l.aspect.code) := by
  rw [Json.lookup_mapping, leafFields, Json.lookup_append]
  rfl

theorem leaf_mode {l : Leaf} (kind : l.aspect.kind ≠ .constant) :
    Json.lookup "mode" (Json.mapping (leafFields l)) = some (.text l.mode.code) := by
  rw [Json.lookup_mapping, leafFields, if_neg kind, List.append_assoc, Json.lookup_append]
  rfl

theorem leaf_operand (l : Leaf) {key : String} (mode : key ≠ "mode") (type : key ≠ "type") :
    Json.lookup key (Json.mapping (leafFields l)) = Json.lookup key l.operand.fields := by
  rw [Json.lookup_mapping, leafFields, Json.lookup_append, Json.lookup_append]
  split <;> simp [Json.lookup, Ne.symm mode, Ne.symm type]

theorem text_at {fields : Fields} {key s : String} (found : Json.lookup key fields = some (.text s)) :
    textAt fields key = .ok s := by
  rw [textAt, found]
  rfl

theorem flag_at {fields : Fields} {key : String} {b : Bool} (found : Json.lookup key fields = some (.bool b)) :
    flagAt fields key = .ok b := by
  rw [flagAt, found]
  rfl

theorem texts_at {fields : Fields} {key : String} {ss : List String}
    (found : Json.lookup key fields = some (Json.texts ss)) : textsAt fields key = .ok ss := by
  rw [textsAt, itemsAt, found]
  exact mapM_written fun s _ => rfl

theorem number_at {a : Aspect} {fields : Fields} {x : Binary64} (whole : (Operand.number x).blemish? = none)
    (found : Json.lookup "value" fields = some (.ofBinary64 x)) : numberAt a fields = .ok (.number x) := by
  obtain ⟨finite, clean⟩ := Operand.number_finite whole
  rw [Json.ofBinary64, if_pos finite] at found
  rw [numberAt, found]
  dsimp only [Option.bind, Json.number?]
  rw [clean]

theorem colors_at {a : Aspect} {fields : Fields} {w : ColorWish} (plain : w.colors.Plain)
    (found : Json.lookup "colors" fields = some (.text w.colors.toText))
    (flag : Json.lookup "multicolored" fields = some (.bool w.multicolored)) :
    colorsAt a fields = .ok (.colors w) := by
  have read : ColorSet.read w.colors.toText = .ok w.colors := by
    rw [ColorSet.read, ColorSet.toText, String.toList_ofList]
    exact ColorSet.read_letters plain
  rw [colorsAt, text_at found]
  dsimp only
  rw [read, flag_at flag]
  rfl

theorem rarities_of_names (a : Aspect) (values : List Rarity) :
    (values.map Rarity.name).mapM (rarityOf a) = .ok values :=
  mapM_written fun r _ => by rw [rarityOf, Operand.rarity_name]

theorem operand_at_leaf {l : Leaf} (canonical : l.Canonical) :
    operandAt l.aspect l.mode (Json.mapping (leafFields l)) = .ok l.operand := by
  obtain ⟨_, suits, whole⟩ := Leaf.check_ok.1 canonical.checked
  have settled := canonical.settled
  have held {key : String} (mode : key ≠ "mode") (type : key ≠ "type") := leaf_operand l mode type
  generalize Json.mapping (leafFields l) = fields at *
  obtain ⟨a, m, o⟩ := l
  dsimp only at *
  unfold Operand.suits at suits
  unfold operandAt
  split at suits
  · rename_i kind
    rw [kind]
  · rename_i kind
    rw [kind]
    dsimp only
    rw [if_pos suits]
  · rename_i x kind
    have compared : m.isExistence = false := by
      cases m <;> first | rfl | cases suits
    rw [kind]
    dsimp only
    rw [compared, if_neg (by decide)]
    exact number_at whole (held (by decide) (by decide))
  · rename_i s kind
    have found : textAt fields "text" = .ok s.text := text_at (held (by decide) (by decide))
    rw [kind]
    dsimp only
    rw [found]
    dsimp only
    rw [Operand.of_text_again]
  · rename_i c kind
    have found : textAt fields "cost" = .ok c.toText := text_at (held (by decide) (by decide))
    have read : ManaCost.read c.toText = .ok c := settled
    rw [kind]
    dsimp only
    rw [found]
    dsimp only
    rw [read]
  · rename_i w kind
    rw [kind]
    exact colors_at settled (held (by decide) (by decide)) (held (by decide) (by decide))
  · rename_i values kind
    rw [kind]
    dsimp only
    rw [texts_at (held (by decide) (by decide))]
    exact congrArg Except.ok (Operand.of_options_again (Operand.options_bare whole))
  · rename_i values kind
    rw [kind]
    dsimp only
    rw [texts_at (held (by decide) (by decide))]
    dsimp only
    rw [rarities_of_names]
    exact congrArg (fun s => Except.ok (Operand.rarities s)) (OrderedSet.of_list_to_list values)
  · rename_i w kind
    have again : FormatWish.ofNames w.formats.toList w.restricted = w := settled
    have flag : flagAt fields "restricted" = .ok w.restricted := flag_at (held (by decide) (by decide))
    rw [kind]
    dsimp only
    rw [texts_at (held (by decide) (by decide))]
    dsimp only
    rw [flag]
    exact congrArg (fun wish => Except.ok (Operand.legality wish)) again
  · cases suits

theorem of_leaf_checked {l : Leaf} (checked : Leaf.check l.aspect l.mode l.operand = .ok ()) :
    ofLeaf l.aspect l.mode l.operand = .ok (.leaf l) := by
  rw [ofLeaf, Leaf.make_checked checked]
  rfl

theorem leaf_of_record {l : Leaf} (canonical : l.Canonical) :
    leafOf l.aspect.code (Json.mapping (leafFields l)) = .ok (.leaf l) := by
  obtain ⟨allowed, _, _⟩ := Leaf.check_ok.1 canonical.checked
  have made := of_leaf_checked canonical.checked
  have code : Text.trimmed l.aspect.code = l.aspect.code :=
    Text.trimmed_bare (Text.bare_of_all fun c member => (Aspect.code_signs _ c member).1)
  rw [leafOf, code, Aspect.of_code]
  dsimp only
  by_cases kind : l.aspect.kind = .constant
  · obtain ⟨mode, operand⟩ := Leaf.constant_parts canonical.checked kind
    rw [mode, operand] at made
    rw [if_pos kind, made]
  · rw [if_neg kind, text_at (leaf_mode kind)]
    dsimp only
    rw [Mode.of_code (Leaf.coded_mode canonical.checked kind), Option.filter_some, if_pos allowed]
    dsimp only
    rw [operand_at_leaf canonical]
    exact made

theorem of_json_leaf {l : Leaf} (canonical : l.Canonical) : ofJson (leafRecord l) = .ok (.leaf l) := by
  have other : l.aspect.code ≠ groupKey := by cases l.aspect <;> decide
  rw [leaf_record, ofJson, text_at (leaf_type l)]
  dsimp only
  rw [if_neg other, leaf_of_record canonical]

theorem of_json_all_written {fs : List Filter} (back : ∀ f ∈ fs, ofJson f.toJson = .ok f) :
    ofJsonAll (toJsonAll fs) = .ok fs := by
  induction fs with
  | nil => rfl
  | cons f rest ih =>
    rw [toJsonAll, ofJsonAll, back f (by simp)]
    dsimp only
    rw [ih fun g member => back g (List.mem_cons_of_mem f member)]
    rfl

theorem of_json_to_json {f : Filter} (canonical : f.Canonical) : ofJson f.toJson = .ok f := by
  induction canonical with
  | leaf canonical => exact of_json_leaf canonical
  | @group m fs some _ ih =>
    have children := of_json_all_written ih
    have mode : groupModeAt [("children", .list (toJsonAll fs)), ("mode", .text m.keyword), ("type", .text groupKey)] =
        .ok m := by
      rw [groupModeAt, text_at rfl]
      dsimp only
      rw [GroupMode.of_keyword]
    rw [toJson, ofJson, text_at rfl]
    dsimp only
    rw [if_pos rfl, mode]
    dsimp only
    rw [childrenOf, if_neg (by simp [Json.lookup]), if_pos rfl, children]
    simp [ofGroup, some]

/-- Whatever filter a caller holds, its record is read as the same filter, and so the two
    written forms are read alike. -/
theorem record_round_trip {f : Filter} (made : f.Made) :
    ofJson f.toJson = .ok f ∧ ofText? f.toText = ofJson f.toJson := by
  have canonical := made_canonical made
  have record := of_json_to_json canonical
  refine ⟨record, ?_⟩
  rw [record, toText, ofText?, String.toList_ofList]
  exact read_written canonical

theorem hybrids_record_round_trip :
    let f := ((ofCost .allOf ⟨[⟨"2/W"⟩, ⟨"X"⟩]⟩).or (ofRarities .noneOf [.rare, .common])).and (.leaf (Leaf.standard .name))
    ofJson f.toJson = .ok f ∧ ofText? f.toText = ofJson f.toJson := by
  have read : ManaCost.read " \x7b2/w\x7d \x7bx\x7d" = .ok ⟨[⟨"2/W"⟩, ⟨"X"⟩]⟩ := rfl
  exact record_round_trip (.combine .and (.combine .or (.cost .allOf read) (.rarities .noneOf _)) (.standard .name))

end Filter

end Deckwright
