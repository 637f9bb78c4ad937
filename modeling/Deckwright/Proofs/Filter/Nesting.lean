import Deckwright.Proofs.Filter.Record
import Deckwright.Proofs.Json.Decoder
import Deckwright.Proofs.Json.Printer
set_option autoImplicit false

namespace Deckwright

namespace Filter

open Json (Faithful)

def Legible (f : Filter) : Prop := ∀ l ∈ f.leaves, ∀ x, l.operand = .number x → x.ReadsBack

theorem to_json_all (fs : List Filter) : toJsonAll fs = fs.map toJson := by
  induction fs with
  | nil => rfl
  | cons f rest ih => rw [toJsonAll, ih, List.map_cons]

theorem operand_faithful {o : Operand} (whole : o.blemish? = none) (legible : ∀ x, o = .number x → x.ReadsBack) :
    ∀ e ∈ o.fields, e.2.Faithful := by
  cases o with
  | none => simp [Operand.fields]
  | text s => simpa [Operand.fields] using Faithful.text _
  | cost c => simpa [Operand.fields] using Faithful.text _
  | number x =>
    obtain ⟨finite, _⟩ := Operand.number_finite whole
    simpa [Operand.fields, Json.ofBinary64, finite] using Faithful.real finite (legible x rfl)
  | colors w => simpa [Operand.fields] using And.intro (Faithful.text _) (Faithful.bool _)
  | options values => simpa [Operand.fields] using Json.texts_faithful _
  | rarities values => simpa [Operand.fields] using Json.texts_faithful _
  | legality w => simpa [Operand.fields] using And.intro (Json.texts_faithful _) (Faithful.bool _)

theorem leaf_faithful {l : Leaf} (canonical : l.Canonical) (legible : ∀ x, l.operand = .number x → x.ReadsBack) :
    (leafRecord l).Faithful := by
  obtain ⟨_, _, whole⟩ := Leaf.check_ok.1 canonical.checked
  refine .record fun e member => ?_
  have here := Json.mem_mapping member
  rcases List.mem_append.1 here with front | type
  · rcases List.mem_append.1 front with operand | mode
    · exact operand_faithful whole legible e operand
    · split at mode
      · cases mode
      · obtain rfl := List.mem_singleton.1 mode
        exact .text _
  · obtain rfl := List.mem_singleton.1 type
    exact .text _

theorem to_json_faithful {f : Filter} (canonical : f.Canonical) (legible : f.Legible) : f.toJson.Faithful := by
  induction canonical with
  | @leaf l canonical => exact leaf_faithful canonical (legible l (by simp [leaves]))
  | @group m fs _ _ ih =>
    have inner : ∀ j ∈ toJsonAll fs, j.Faithful := by
      intro j member
      rw [to_json_all] at member
      obtain ⟨f, here, rfl⟩ := List.mem_map.1 member
      refine ih f here fun l leaf => legible l ?_
      rw [leaves, leaves_all]
      exact List.mem_flatMap.2 ⟨f, here, leaf⟩
    rw [toJson]
    refine .record fun e member => ?_
    simp only [List.mem_cons, List.not_mem_nil, or_false] at member
    rcases member with rfl | rfl | rfl
    · exact .list inner
    · exact .text _
    · exact .text _

theorem group_depth (m : GroupMode) (fs : List Filter) :
    (Filter.group m fs).toJson.depth = Json.itemsDepth (fs.map toJson) + 2 := by
  simp [toJson, to_json_all, Json.depth, Json.fieldsDepth]

def buried (f : Filter) : Nat → Filter
  | 0 => f
  | k + 1 => .group .and [buried f k]

theorem buried_made {f : Filter} (made : f.Made) (k : Nat) : (buried f k).Made := by
  induction k with
  | zero => exact made
  | succ k ih =>
    have child : ∀ g ∈ [buried f k], g.Made := fun g member => List.mem_singleton.1 member ▸ ih
    exact .group child rfl

theorem buried_legible {f : Filter} (legible : f.Legible) (k : Nat) : (buried f k).Legible := by
  have leaves : (buried f k).leaves = f.leaves := by
    induction k with
    | zero => rfl
    | succ k ih => simp [buried, leaves, leavesOfAll, ih]
  rw [Legible, leaves]
  exact legible

theorem buried_depth (f : Filter) (k : Nat) : (buried f k).toJson.depth = f.toJson.depth + 2 * k := by
  induction k with
  | zero => rfl
  | succ k ih =>
    rw [buried, group_depth, List.map_singleton, Json.itemsDepth, Json.itemsDepth, ih]
    omega

theorem reads_filter {f : Filter} (canonical : f.Canonical) : Json.Read.Reads Json.Read.filter f.toJson f := by
  intro levels
  rw [Json.Read.filter, Json.Read.value_drafted, Json.Read.within, Json.Read.within]
  by_cases fits : f.toJson.depth ≤ levels
  · rw [if_pos fits, if_pos fits]
    dsimp only
    rw [of_json_to_json canonical]
  · rw [if_neg fits, if_neg fits]

end Filter

end Deckwright
