import Deckwright.Proofs.Filter.Operand
set_option autoImplicit false

/- Costs, colors and formats may be any values here, also those that no reader makes, and so this is shown apart
   from how filters are written and read. -/
namespace Deckwright

def Operand.Tidy : Operand → Prop
  | .number x => x.isFinite = true ∧ ¬ (x.isZero = true ∧ x.negative = true)
  | .options values => ∀ v ∈ values.toList, v ≠ "" ∧ Text.Bare v.toList
  | _ => True

theorem Operand.tidy_of_whole {o : Operand} (whole : o.blemish? = Option.none) : o.Tidy := by
  cases o with
  | number x =>
    unfold blemish? at whole
    refine ⟨(number_finite whole).1, fun minus => ?_⟩
    simp [(number_finite whole).1, minus.1, minus.2] at whole
  | options values =>
    intro v member
    obtain ⟨bare, some⟩ := options_bare whole v member
    exact ⟨by simpa using some, bare⟩
  | _ => trivial

namespace Leaf

structure Sound (l : Leaf) : Prop where
  allowed : l.aspect.allows l.mode = true
  suited : l.operand.suits l.aspect l.mode = true
  tidy : l.operand.Tidy

theorem sound_of_check {a : Aspect} {m : Mode} {o : Operand} (checked : check a m o = .ok ()) :
    Sound ⟨a, m, o⟩ := by
  obtain ⟨allowed, suited, whole⟩ := check_ok.1 checked
  exact ⟨allowed, suited, Operand.tidy_of_whole whole⟩

-- The test of a leaf with nothing to fall back on: where no case is for the mode and the
-- operand there is no answer.
def answer? (l : Leaf) (card : Card) : Option Bool :=
  let a := l.aspect
  match l.mode, l.operand with
  | .always, _ => some (a = .anyCard)
  | .missing, _ => some ((a.numbers card).any Option.isNone)
  | .variable_, _ => some ((a.numbers card).any fun n => n.any Aspect.Reading.isVariable)
  | .compare c, .number x => some ((a.numbers card).any fun n => n.any fun r => c.test r.value x)
  | .contains c, .text s => some ((a.texts card).any (s.test c))
  | .contains c, .cost want => some ((a.costs card).any fun held => costTest c held want)
  | .contains c, .colors w => some ((a.colorSets card).any (w.test c))
  | .contains c, .options values =>
    some ((a.optionLists card).any fun held => c.test held (values.toList.map Text.lowered))
  | .contains c, .rarities values => some (c.test [card.rarity] values.toList)
  | .contains c, .legality w => some (w.test c card)
  | _, _ => none

theorem test_answer (l : Leaf) (card : Card) : l.test card = (l.answer? card).getD false := by
  obtain ⟨a, m, o⟩ := l
  cases m with
  | contains c => cases o <;> rfl
  | compare c => cases o <;> rfl
  | _ => rfl

theorem sound_answered {l : Leaf} (sound : l.Sound) (card : Card) : l.answer? card = some (l.test card) := by
  have answered : (l.answer? card).isSome = true := by
    obtain ⟨a, m, o⟩ := l
    obtain ⟨allowed, suited, _⟩ := sound
    unfold Aspect.allows at allowed
    unfold Operand.suits at suited
    dsimp only at allowed suited
    cases m with
    | contains c =>
      cases kind : a.kind <;> cases o <;> first | rfl | simp [kind] at allowed suited
    | compare c =>
      cases kind : a.kind <;> cases o <;> first | rfl | simp [kind, Mode.isExistence] at allowed suited
    | missing => rfl
    | variable_ => rfl
    | always => rfl
  obtain ⟨b, found⟩ := Option.isSome_iff_exists.1 answered
  rw [test_answer, found, Option.getD_some]

end Leaf

namespace Filter

inductive WellFormed : Filter → Prop where
  | leaf {l : Leaf} (sound : l.Sound) : WellFormed (.leaf l)
  | group {m : GroupMode} {fs : List Filter} (some : fs ≠ []) (all : ∀ f ∈ fs, WellFormed f) :
    WellFormed (.group m fs)

theorem well_formed_inherited : Inherited WellFormed := by
  intro m fs
  constructor
  · intro formed
    cases formed with
    | group some all => exact ⟨some, all⟩
  · rintro ⟨some, all⟩
    exact .group some all

theorem canonical_well_formed {f : Filter} (canonical : f.Canonical) : f.WellFormed := by
  induction canonical with
  | leaf canonical => exact .leaf (Leaf.sound_of_check canonical.checked)
  | group some _ ih => exact .group some ih

theorem of_leaf_well_formed {a : Aspect} {m : Mode} {o : Operand} {f : Filter} (made : ofLeaf a m o = .ok f) :
    f.WellFormed := by
  obtain ⟨l, leaf, rfl⟩ := ok_of_map made
  obtain ⟨checked, rfl⟩ := Leaf.make_ok leaf
  exact .leaf (Leaf.sound_of_check checked)

inductive Edit where
  | push (child : Filter)
  | remove (i : Nat)
  | mode (m : GroupMode)
  | wrap (i : Nat) (inner : GroupMode)
  | replace (i : Nat) (child : Filter)
  | set (m : Mode) (o : Operand)
  | operand (o : Operand)

def settled {ε : Type} (f : Filter) : Except ε Filter → Filter
  | .ok g => g
  | .error _ => f

def after : Filter → Edit → Filter
  | .group m fs, .push child => push m fs child
  | .group m fs, .remove i => settled (.group m fs) ((remove m fs i).map Prod.snd)
  | .group _ fs, .mode new => .group new fs
  | .group m fs, .wrap i inner => settled (.group m fs) (wrap m fs i inner)
  | .group m fs, .replace i child => settled (.group m fs) (replace m fs i child)
  | .leaf l, .set m o => settled (.leaf l) ((l.set m o).map leaf)
  | .leaf l, .operand o => settled (.leaf l) ((l.setOperand o).map leaf)
  | f, _ => f

def afterAt (f : Filter) (path : List Nat) (e : Edit) : Filter :=
  match at? path f with
  | some g => f.putAt path (g.after e)
  | none => f

def Edit.brought : Edit → List Filter
  | .push child => [child]
  | .replace _ child => [child]
  | _ => []

/-- The filters that makers, readers and edits lead to from any arguments. -/
inductive Built : Filter → Prop where
  | leaf {a : Aspect} {m : Mode} {o : Operand} {f : Filter} (made : ofLeaf a m o = .ok f) : Built f
  | standard (a : Aspect) : Built (.leaf (Leaf.standard a))
  | text {a : Aspect} {c : Containment} {s : String} {f : Filter} (made : ofText a c s = .ok f) : Built f
  | options {a : Aspect} {c : Containment} {values : List String} {f : Filter} (made : ofOptions a c values = .ok f) :
    Built f
  | rarities (c : Containment) (values : List Rarity) : Built (ofRarities c values)
  | colors {a : Aspect} {c : Containment} {colors : ColorSet} {multicolored : Bool} {f : Filter}
    (made : ofColors a c colors multicolored = .ok f) : Built f
  | cost (c : Containment) (cost : ManaCost) : Built (ofCost c cost)
  | number {a : Aspect} {c : Comparison} {x : Binary64} {f : Filter} (made : ofNumber a c x = .ok f) : Built f
  | missing {a : Aspect} {f : Filter} (made : ofMissing a = .ok f) : Built f
  | variable_ {a : Aspect} {f : Filter} (made : ofVariable a = .ok f) : Built f
  | legality (c : Containment) (formats : List String) (restricted : Bool) : Built (ofLegality c formats restricted)
  | group {m : GroupMode} {fs : List Filter} {f : Filter} (children : ∀ g ∈ fs, Built g) (made : ofGroup m fs = .ok f) :
    Built f
  | combine (m : GroupMode) {f g : Filter} (left : Built f) (right : Built g) : Built (combine m f g)
  | part {f g : Filter} {path : List Nat} (whole : Built f) (there : at? path f = some g) : Built g
  | edit {f : Filter} {e : Edit} (path : List Nat) (whole : Built f) (brought : ∀ g ∈ e.brought, Built g) :
    Built (f.afterAt path e)
  | ofText {s : String} {f : Filter} (read : ofText? s = .ok f) : Built f
  | ofJson {j : Json} {f : Filter} (read : ofJson j = .ok f) : Built f
  | ofJsonText {s : List Char} {f : Filter} (read : ofJsonText s = .ok f) : Built f

theorem settled_keeps {ε : Type} {P : Filter → Prop} {f : Filter} {result : Except ε Filter} (old : P f)
    (done : ∀ g, result = .ok g → P g) : P (f.settled result) := by
  cases result with
  | ok g => exact done g rfl
  | error e => exact old

theorem after_well_formed {f : Filter} {e : Edit} (old : f.WellFormed) (brought : ∀ g ∈ e.brought, g.WellFormed) :
    (f.after e).WellFormed := by
  cases f with
  | leaf l =>
    cases e with
    | set m o => exact settled_keeps old fun g set => of_leaf_well_formed set
    | operand o => exact settled_keeps old fun g set => of_leaf_well_formed set
    | _ => exact old
  | group m fs =>
    cases e with
    | push child => exact well_formed_inherited.push old (brought child (by simp [Edit.brought]))
    | remove i =>
      refine settled_keeps old fun g removed => ?_
      obtain ⟨⟨gone, rest⟩, taken, rfl⟩ := ok_of_map removed
      exact well_formed_inherited.remove old taken
    | mode new => exact well_formed_inherited.mode new old
    | wrap i inner => exact settled_keeps old fun g wrapped => well_formed_inherited.wrap old wrapped
    | replace i child =>
      have new := brought child (by simp [Edit.brought])
      exact settled_keeps old fun g replaced => well_formed_inherited.replace old new replaced
    | _ => exact old

theorem after_at_well_formed {f : Filter} {e : Edit} (path : List Nat) (old : f.WellFormed)
    (brought : ∀ g ∈ e.brought, g.WellFormed) : (f.afterAt path e).WellFormed := by
  unfold afterAt
  split
  · rename_i g there
    have part := well_formed_inherited.part old there
    exact well_formed_inherited.putAt path old (after_well_formed part brought)
  · exact old

theorem well_formed_of_built {f : Filter} (built : f.Built) : f.WellFormed := by
  induction built with
  | leaf made => exact of_leaf_well_formed made
  | standard a => exact .leaf (Leaf.sound_of_check (Leaf.standard_canonical a).checked)
  | text made =>
    unfold Filter.ofText at made
    split at made
    · cases made
    · exact of_leaf_well_formed made
  | options made => exact of_leaf_well_formed made
  | rarities c values => exact .leaf (Leaf.sound_of_check rfl)
  | colors made => exact of_leaf_well_formed made
  | cost c cost => exact .leaf (Leaf.sound_of_check rfl)
  | number made =>
    unfold ofNumber at made
    split at made
    · cases made
    · exact of_leaf_well_formed made
  | missing made => exact of_leaf_well_formed made
  | variable_ made => exact of_leaf_well_formed made
  | legality c formats restricted => exact .leaf (Leaf.sound_of_check rfl)
  | group _ made ih => exact well_formed_inherited.ofGroup ih made
  | combine m _ _ left right => exact well_formed_inherited.combine m left right
  | part _ there ih => exact well_formed_inherited.part ih there
  | edit path _ _ whole brought => exact after_at_well_formed path whole brought
  | ofText read => exact canonical_well_formed (read_from_canonical read)
  | ofJson read => exact canonical_well_formed (of_json_canonical _ read)
  | ofJsonText read => exact canonical_well_formed (of_json_text_canonical read)

/-- Wherever one looks in a filter, a group has filters in it, and a leaf is sound and tested by a
    case that is for its mode and operand. -/
theorem built_well_formed {f : Filter} (built : f.Built) (path : List Nat) :
    (∀ m fs, at? path f = some (.group m fs) → fs ≠ []) ∧
      ∀ l, at? path f = some (.leaf l) → l.Sound ∧ ∀ card, l.answer? card = some (l.test card) := by
  have formed := well_formed_of_built built
  constructor
  · intro m fs there
    exact ((well_formed_inherited m fs).1 (well_formed_inherited.part formed there)).1
  · intro l there
    cases well_formed_inherited.part formed there with
    | leaf sound => exact ⟨sound, Leaf.sound_answered sound⟩

theorem ogres_well_formed :
    let ogres := .leaf (Leaf.standard .power)
    let f := (((ofCost .allOf ⟨[⟨"?"⟩]⟩).and ogres).afterAt [1] (.operand (.number .nan))).afterAt [] (.wrap 1 .or)
    f.Built ∧ at? [1] (f.afterAt [1] (.remove 0)) = some (.group .or [ogres]) ∧
      (Leaf.standard .power).Sound ∧
      ∀ card, (Leaf.standard .power).answer? card = some ((Leaf.standard .power).test card) := by
  intro ogres f
  have built : f.Built := by
    refine .edit [] (.edit [1] (.combine .and (.cost .allOf _) (.standard .power)) ?_) ?_ <;> simp [Edit.brought]
  have last : (f.afterAt [1] (.remove 0)).Built := .edit [1] built (by simp [Edit.brought])
  exact ⟨built, rfl, (built_well_formed last [1, 0]).2 _ rfl⟩

end Filter

end Deckwright
