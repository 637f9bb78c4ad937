import Deckwright.Filter.Bracketed
import Deckwright.Filter.Record
import Deckwright.Proofs.Binary64.Decimal
import Deckwright.Proofs.Filter.Edit
import Deckwright.Proofs.Mana.Color
import Deckwright.Proofs.Mana.Spelling
import Deckwright.Proofs.Ordered
import Deckwright.Proofs.Outcome
set_option autoImplicit false

/- All filters that can come up are canonical: their leaves pass the check, their operands are as their readers
   leave them, and no group is empty. -/
namespace Deckwright

def ColorSet.Made (s : ColorSet) : Prop := (∃ cs, s = ofList cs) ∨ ∃ text, read text = .ok s

namespace Operand

inductive Offered : Operand → Prop where
  | none : Offered .none
  | text (s : Search) : Offered (.text s)
  | cost {text : String} {c : ManaCost} (read : ManaCost.read text = .ok c) : Offered (.cost c)
  | number (x : Binary64) : Offered (.number x)
  | colors {w : ColorWish} (made : w.colors.Made) : Offered (.colors w)
  | options (values : OrderedSet String) : Offered (.options values)
  | rarities (values : OrderedSet Rarity) : Offered (.rarities values)
  | formats (names : List String) (restricted : Bool) : Offered (ofFormats names restricted)

-- What the check of a leaf does not look at. Costs, colors and formats are stored as their
-- readers make them, and a reader takes them again.
def Settled : Operand → Prop
  | .cost c => ManaCost.read c.toText = .ok c
  | .colors w => w.colors.Plain
  | .legality w => FormatWish.ofNames w.formats.toList w.restricted = w
  | _ => True

end Operand

theorem ColorSet.made_plain {s : ColorSet} (made : s.Made) : s.Plain := by
  rcases made with ⟨cs, rfl⟩ | ⟨text, found⟩
  · exact of_list_plain cs
  · exact read_letters_plain found

namespace FormatWish

theorem mem_of_names {names : List String} {restricted : Bool} {v : String}
    (member : v ∈ (ofNames names restricted).formats.toList) :
    Text.Bare v.toList ∧ Text.lower v.toList = v.toList ∧ v.isEmpty = false := by
  obtain ⟨named, some⟩ := List.mem_filter.1 (OrderedSet.mem_ofList.1 member)
  obtain ⟨name, _, rfl⟩ := List.mem_map.1 named
  refine ⟨?_, ?_, by simpa using some⟩
  · simp only [Text.lowered, Text.trimmed, String.toList_ofList]
    exact Text.lower_bare (Text.trim_bare _)
  · simp only [Text.lowered, String.toList_ofList, Text.lower_lower]

theorem of_names_again (names : List String) (restricted : Bool) :
    ofNames (ofNames names restricted).formats.toList restricted = ofNames names restricted := by
  have same : ∀ v ∈ (ofNames names restricted).formats.toList, Text.lowered (Text.trimmed v) = v := by
    intro v member
    obtain ⟨bare, low, _⟩ := mem_of_names member
    rw [Text.trimmed_bare bare, Text.lowered, low, String.ofList_toList]
  have some : ∀ v ∈ (ofNames names restricted).formats.toList, (!v.isEmpty) = true := by
    intro v member
    simpa using (mem_of_names member).2.2
  have mapped : (ofNames names restricted).formats.toList.map (fun n => Text.lowered (Text.trimmed n)) =
      (ofNames names restricted).formats.toList := by
    rw [List.map_congr_left same, List.map_id']
  have kept := List.filter_eq_self.mpr some
  have formats : (ofNames (ofNames names restricted).formats.toList restricted).formats =
      (ofNames names restricted).formats := by
    conv => lhs; rw [ofNames]
    simp only
    rw [mapped, kept, OrderedSet.of_list_to_list]
  have flag : ofNames (ofNames names restricted).formats.toList restricted =
      ⟨(ofNames (ofNames names restricted).formats.toList restricted).formats, restricted⟩ := rfl
  rw [flag, formats]
  rfl

end FormatWish

namespace Operand

theorem formats_settled (names : List String) (restricted : Bool) : (ofFormats names restricted).Settled :=
  FormatWish.of_names_again names restricted

theorem of_text_settled {s : String} {o : Operand} (found : ofText s = .ok o) : o.Settled := by
  unfold ofText at found
  split at found
  · obtain rfl := Except.ok.inj found
    trivial
  · cases found

theorem of_number_settled {x : Binary64} {o : Operand} (found : ofNumber x = .ok o) : o.Settled := by
  unfold ofNumber at found
  split at found
  · obtain rfl := Except.ok.inj found
    trivial
  · cases found

theorem offered_settled {o : Operand} (offered : o.Offered) : o.Settled := by
  cases offered with
  | cost read => exact ManaCost.read_text read
  | colors made => exact ColorSet.made_plain made
  | formats names restricted => exact formats_settled names restricted
  | none => trivial
  | text => trivial
  | number => trivial
  | options => trivial
  | rarities => trivial

theorem standard_settled (a : Aspect) (m : Mode) : (standard a m).Settled := by
  unfold standard
  cases a.kind with
  | cost => exact ManaCost.read_text (s := "") rfl
  | colors => exact ColorSet.colorless_plain
  | legality => exact formats_settled [] false
  | number =>
    dsimp only
    split <;> trivial
  | text => trivial
  | constant => trivial
  | options => trivial
  | rarity => trivial

theorem settled_of_suits {a : Aspect} {m : Mode} {o : Operand} (suits : o.suits a m = true)
    (cost : a.kind = .cost → o.Settled) (colors : a.kind = .colors → o.Settled)
    (legality : a.kind = .legality → o.Settled) : o.Settled := by
  unfold Operand.suits at suits
  cases kind : a.kind with
  | cost => exact cost kind
  | colors => exact colors kind
  | legality => exact legality kind
  | text => cases o <;> first | trivial | simp [kind] at suits
  | number => cases o <;> first | trivial | simp [kind] at suits
  | options => cases o <;> first | trivial | simp [kind] at suits
  | rarity => cases o <;> first | trivial | simp [kind] at suits
  | constant => cases o <;> first | trivial | simp [kind] at suits

theorem read_written_settled {a : Aspect} {m : Mode} {s : List Char} {o : Operand}
    (found : readWritten a m s = .ok o) (suits : o.suits a m = true) : o.Settled := by
  unfold readWritten at found
  refine settled_of_suits suits ?_ ?_ ?_
  · intro kind
    simp only [kind] at found
    split at found
    · rename_i c read
      obtain rfl := Except.ok.inj found
      exact ManaCost.read_text read
    · cases found
  · intro kind
    simp only [kind] at found
    unfold readColors at found
    split at found
    · cases found
    · rename_i inner rest _
      split at found
      · cases found
      · rename_i colors read
        obtain ⟨multicolored, _, rfl⟩ := ok_of_map found
        exact ColorSet.read_letters_plain read
  · intro kind
    simp only [kind] at found
    unfold readLegality at found
    split at found
    · cases found
    · rename_i inner rest _
      obtain ⟨restricted, _, rfl⟩ := ok_of_map found
      exact formats_settled _ _

end Operand

theorem Filter.operand_at_settled {a : Aspect} {m : Mode} {fields : Fields} {o : Operand}
    (found : operandAt a m fields = .ok o) (suits : o.suits a m = true) : o.Settled := by
  unfold operandAt at found
  refine Operand.settled_of_suits suits ?_ ?_ ?_
  · intro kind
    simp only [kind] at found
    split at found
    · cases found
    · split at found
      · rename_i c read
        obtain rfl := Except.ok.inj found
        exact ManaCost.read_text read
      · cases found
  · intro kind
    simp only [kind] at found
    unfold colorsAt at found
    split at found
    · cases found
    · split at found
      · cases found
      · rename_i colors read
        obtain ⟨multicolored, _, rfl⟩ := ok_of_map found
        exact ColorSet.read_letters_plain read
  · intro kind
    simp only [kind] at found
    split at found
    · cases found
    · rename_i names _
      obtain ⟨restricted, _, rfl⟩ := ok_of_map found
      exact Operand.formats_settled _ _

namespace Leaf

structure Canonical (l : Leaf) : Prop where
  checked : check l.aspect l.mode l.operand = .ok ()
  settled : l.operand.Settled

theorem check_ok {a : Aspect} {m : Mode} {o : Operand} :
    check a m o = .ok () ↔ a.allows m = true ∧ o.suits a m = true ∧ o.blemish? = none := by
  unfold check
  cases a.allows m with
  | false => simp
  | true =>
    cases o.suits a m with
    | false => simp
    | true => cases o.blemish? <;> simp

theorem make_ok {a : Aspect} {m : Mode} {o : Operand} {l : Leaf} (made : make a m o = .ok l) :
    check a m o = .ok () ∧ l = ⟨a, m, o⟩ := by
  obtain ⟨_, checked, shape⟩ := ok_of_map made
  exact ⟨checked, shape⟩

theorem make_canonical {a : Aspect} {m : Mode} {o : Operand} {l : Leaf} (made : make a m o = .ok l)
    (settled : o.suits a m = true → o.Settled) : l.Canonical := by
  obtain ⟨checked, rfl⟩ := make_ok made
  exact ⟨checked, settled (check_ok.1 checked).2.1⟩

theorem standard_canonical (a : Aspect) : (standard a).Canonical := by
  refine ⟨?_, Operand.standard_settled a _⟩
  cases a <;> rfl

theorem of_body_canonical {body : List Char} {fault : BracketFault → FilterFault} {l : Leaf}
    (found : ofBody body fault = .ok l) : l.Canonical := by
  unfold ofBody at found
  split at found
  dsimp only at found
  split at found
  · cases found
  · split at found
    · split at found
      · exact make_canonical found fun _ => trivial
      · cases found
    · split at found
      · cases found
      · unfold ofContent at found
        split at found
        · cases found
        · split at found
          · cases found
          · split at found
            · cases found
            · rename_i read
              exact make_canonical found (Operand.read_written_settled read)

end Leaf

namespace Filter

inductive Canonical : Filter → Prop where
  | leaf {l : Leaf} (canonical : l.Canonical) : Canonical (.leaf l)
  | group {m : GroupMode} {fs : List Filter} (some : fs ≠ []) (all : ∀ f ∈ fs, Canonical f) :
    Canonical (.group m fs)

theorem canonical_inherited : Inherited Canonical := by
  intro m fs
  constructor
  · intro canonical
    cases canonical with
    | group some all => exact ⟨some, all⟩
  · rintro ⟨some, all⟩
    exact .group some all

theorem of_leaf_canonical {a : Aspect} {m : Mode} {o : Operand} {f : Filter} (made : ofLeaf a m o = .ok f)
    (settled : o.suits a m = true → o.Settled) : f.Canonical := by
  obtain ⟨l, leaf, rfl⟩ := ok_of_map made
  exact .leaf (Leaf.make_canonical leaf settled)

theorem read_from_ok {fault : BracketFault → FilterFault} {fuel : Nat} {s : List Char} {f : Filter}
    (found : readFrom fault (fuel + 1) s = .ok f) : ∃ inner, body (Text.trim s) = .ok inner ∧
      ((∃ l, Leaf.ofBody inner fault = .ok l ∧ f = .leaf l) ∨
        ∃ m ps fs, GroupMode.ofKeyword? (String.ofList (Text.firstWord inner).1) = some m ∧
          pieces (Text.firstWord inner).2 = .ok ps ∧ ps.mapM (readFrom fault fuel) = .ok fs ∧ fs ≠ [] ∧
          f = .group m fs) := by
  unfold readFrom at found
  split at found
  · cases found
  · rename_i inner opened
    refine ⟨inner, opened, ?_⟩
    dsimp only at found
    split at found
    · exact .inl (ok_of_map found)
    · rename_i m keyword
      split at found
      · cases found
      · cases found
      · rename_i ps _ split
        split at found
        · cases found
        · rename_i fs children
          obtain ⟨some, rfl⟩ := of_group_ok found
          exact .inr ⟨m, ps, fs, keyword, split, children, some, rfl⟩

theorem read_from_canonical {fault : BracketFault → FilterFault} {fuel : Nat} {s : List Char} {f : Filter}
    (found : readFrom fault fuel s = .ok f) : f.Canonical := by
  induction fuel generalizing s f with
  | zero => cases found
  | succ fuel ih =>
    obtain ⟨inner, _, ⟨l, leaf, rfl⟩ | ⟨m, ps, fs, _, _, children, some, rfl⟩⟩ := read_from_ok found
    · exact .leaf (Leaf.of_body_canonical leaf)
    · refine .group some fun g member => ?_
      obtain ⟨piece, _, read⟩ := mem_of_mapM children g member
      exact ih read

theorem leaf_of_canonical {kind : String} {fields : Fields} {f : Filter} (found : leafOf kind fields = .ok f) :
    f.Canonical := by
  unfold leafOf at found
  dsimp only at found
  split at found
  · cases found
  · split at found
    · exact of_leaf_canonical found fun _ => trivial
    · split at found
      · cases found
      · split at found
        · cases found
        · split at found
          · cases found
          · rename_i read
            exact of_leaf_canonical found (operand_at_settled read)

mutual

theorem of_json_canonical (j : Json) {f : Filter} (found : ofJson j = .ok f) : f.Canonical := by
  cases j with
  | record fields =>
    unfold ofJson at found
    split at found
    · cases found
    · split at found
      · split at found
        · cases found
        · split at found
          · cases found
          · cases found
          · rename_i fs children
            exact canonical_inherited.ofGroup (children_of_canonical fields children) found
      · exact leaf_of_canonical found
  | _ => simp [ofJson] at found

theorem children_of_canonical (fields : List (String × Json)) {fs : List Filter}
    (found : childrenOf fields = some (.ok fs)) : ∀ f ∈ fs, f.Canonical := by
  cases fields with
  | nil => simp [childrenOf] at found
  | cons field rest =>
    obtain ⟨key, j⟩ := field
    cases j with
    | list items =>
      unfold childrenOf at found
      split at found
      · exact children_of_canonical rest found
      · split at found
        · exact of_json_all_canonical items (Option.some.inj found)
        · exact children_of_canonical rest found
    | _ =>
      simp only [childrenOf] at found
      exact children_of_canonical rest found

theorem of_json_all_canonical (js : List Json) {fs : List Filter} (found : ofJsonAll js = .ok fs) :
    ∀ f ∈ fs, f.Canonical := by
  cases js with
  | nil =>
    obtain rfl := Except.ok.inj found
    simp
  | cons j rest =>
    unfold ofJsonAll at found
    split at found
    · cases found
    · rename_i f first
      obtain ⟨gs, later, rfl⟩ := ok_of_map found
      intro g member
      rcases List.mem_cons.1 member with rfl | member
      · exact of_json_canonical j first
      · exact of_json_all_canonical rest later g member

end

theorem of_json_text_canonical {s : List Char} {f : Filter} (found : ofJsonText s = .ok f) : f.Canonical := by
  unfold ofJsonText Json.decode Json.decodeOctets at found
  split at found
  split at found
  · cases found
  · rename_i g read
    unfold Json.Read.ended at found
    split at found
    · obtain rfl := Except.ok.inj found
      unfold Json.Read.filter at read
      split at read
      · cases read
      · split at read
        · rename_i decoded
          obtain rfl := Except.ok.inj read
          exact of_json_canonical _ decoded
        · cases read
    · cases found

/-- The filters a caller can come to hold. -/
inductive Made : Filter → Prop where
  | leaf {a : Aspect} {m : Mode} {o : Operand} {f : Filter} (offered : o.Offered) (made : ofLeaf a m o = .ok f) : Made f
  | standard (a : Aspect) : Made (.leaf (Leaf.standard a))
  | text {a : Aspect} {c : Containment} {s : String} {f : Filter} (made : ofText a c s = .ok f) : Made f
  | options {a : Aspect} {c : Containment} {values : List String} {f : Filter} (made : ofOptions a c values = .ok f) :
    Made f
  | rarities (c : Containment) (values : List Rarity) : Made (ofRarities c values)
  | colors {a : Aspect} {c : Containment} {colors : ColorSet} {multicolored : Bool} {f : Filter} (source : colors.Made)
    (made : ofColors a c colors multicolored = .ok f) : Made f
  | cost {text : String} {cost : ManaCost} (c : Containment) (read : ManaCost.read text = .ok cost) : Made (ofCost c cost)
  | number {a : Aspect} {c : Comparison} {x : Binary64} {f : Filter} (made : ofNumber a c x = .ok f) : Made f
  | missing {a : Aspect} {f : Filter} (made : ofMissing a = .ok f) : Made f
  | variable_ {a : Aspect} {f : Filter} (made : ofVariable a = .ok f) : Made f
  | legality (c : Containment) (formats : List String) (restricted : Bool) : Made (ofLegality c formats restricted)
  | group {m : GroupMode} {fs : List Filter} {f : Filter} (children : ∀ g ∈ fs, Made g) (made : ofGroup m fs = .ok f) :
    Made f
  | combine (m : GroupMode) {f g : Filter} (left : Made f) (right : Made g) : Made (combine m f g)
  | part {f g : Filter} {path : List Nat} (whole : Made f) (there : at? path f = some g) : Made g
  | putAt {f g : Filter} (path : List Nat) (whole : Made f) (part : Made g) : Made (putAt f path g)
  | operand {l new : Leaf} {m : Mode} {o : Operand} (old : Made (.leaf l)) (offered : o.Offered)
    (set : l.set m o = .ok new) : Made (.leaf new)
  | mode {m : GroupMode} {fs : List Filter} (new : GroupMode) (old : Made (.group m fs)) : Made (.group new fs)
  | push {m : GroupMode} {fs : List Filter} {f : Filter} (old : Made (.group m fs)) (child : Made f) : Made (push m fs f)
  | remove {m : GroupMode} {fs : List Filter} {i : Nat} {gone rest : Filter} (old : Made (.group m fs))
    (removed : remove m fs i = .ok (gone, rest)) : Made rest
  | wrap {m inner : GroupMode} {fs : List Filter} {i : Nat} {f : Filter} (old : Made (.group m fs))
    (wrapped : wrap m fs i inner = .ok f) : Made f
  | replace {m : GroupMode} {fs : List Filter} {i : Nat} {f g : Filter} (old : Made (.group m fs)) (child : Made g)
    (replaced : replace m fs i g = .ok f) : Made f
  | ofText {s : String} {f : Filter} (read : ofText? s = .ok f) : Made f
  | ofJson {j : Json} {f : Filter} (read : ofJson j = .ok f) : Made f
  | ofJsonText {s : List Char} {f : Filter} (read : ofJsonText s = .ok f) : Made f

theorem contains_leaf_canonical {a : Aspect} {c : Containment} {o : Operand}
    (kind : a.kind = .cost ∨ a.kind = .rarity ∨ a.kind = .legality) (settled : o.Settled)
    (suits : o.suits a (.contains c) = true) (whole : o.blemish? = none) : Canonical (.leaf ⟨a, .contains c, o⟩) := by
  have allowed : a.allows (.contains c) = true := by
    rcases kind with kind | kind | kind <;> simp [Aspect.allows, kind]
  exact .leaf ⟨Leaf.check_ok.2 ⟨allowed, suits, whole⟩, settled⟩

theorem made_canonical {f : Filter} (made : f.Made) : f.Canonical := by
  induction made with
  | leaf offered made => exact of_leaf_canonical made fun _ => Operand.offered_settled offered
  | standard a => exact .leaf (Leaf.standard_canonical a)
  | text made =>
    unfold Filter.ofText at made
    split at made
    · cases made
    · rename_i read
      exact of_leaf_canonical made fun _ => Operand.of_text_settled read
  | options made => exact of_leaf_canonical made fun _ => trivial
  | rarities c values => exact contains_leaf_canonical (.inr (.inl rfl)) trivial rfl rfl
  | colors source made => exact of_leaf_canonical made fun _ => ColorSet.made_plain source
  | cost c read => exact contains_leaf_canonical (.inl rfl) (ManaCost.read_text read) rfl rfl
  | number made =>
    unfold ofNumber at made
    split at made
    · cases made
    · rename_i read
      exact of_leaf_canonical made fun _ => Operand.of_number_settled read
  | missing made => exact of_leaf_canonical made fun _ => trivial
  | variable_ made => exact of_leaf_canonical made fun _ => trivial
  | legality c formats restricted =>
    exact contains_leaf_canonical (.inr (.inr rfl)) (Operand.formats_settled formats restricted) rfl rfl
  | group _ made ih => exact canonical_inherited.ofGroup ih made
  | combine m _ _ left right => exact canonical_inherited.combine m left right
  | part _ there ih => exact canonical_inherited.part ih there
  | putAt path _ _ whole part => exact canonical_inherited.putAt path whole part
  | operand _ offered set ih => exact .leaf (Leaf.make_canonical set fun _ => Operand.offered_settled offered)
  | mode new _ ih => exact canonical_inherited.mode new ih
  | push _ _ old child => exact canonical_inherited.push old child
  | remove _ removed ih => exact canonical_inherited.remove ih removed
  | wrap _ wrapped ih => exact canonical_inherited.wrap ih wrapped
  | replace _ _ replaced old child => exact canonical_inherited.replace old child replaced
  | ofText read => exact read_from_canonical read
  | ofJson read => exact of_json_canonical _ read
  | ofJsonText read => exact of_json_text_canonical read

end Filter

end Deckwright
