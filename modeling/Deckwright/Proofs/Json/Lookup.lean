import Deckwright.Json.Value
import Deckwright.Proofs.Ordered
set_option autoImplicit false

namespace Deckwright.Json

theorem lookup_get (key : String) (fields : List (String × Json)) (m : OrderedMap String Json) :
    (fields.foldl (fun m e => m.insert e.1 e.2) m).get? key = (lookup key fields).or (m.get? key) := by
  induction fields generalizing m with
  | nil => rfl
  | cons field rest ih =>
    obtain ⟨k, v⟩ := field
    rw [List.foldl_cons, ih, OrderedMap.get_insert, lookup]
    cases lookup key rest with
    | some later => rfl
    | none => by_cases same : key = k <;> simp [same, eq_comm]

theorem lookup_increasing (key : String) (fields : List (String × Json))
    (increasing : Ordered.Increasing (fields.map Prod.fst)) : lookup key fields = Ordered.find? key fields := by
  induction fields with
  | nil => rfl
  | cons field rest ih =>
    obtain ⟨k, v⟩ := field
    obtain ⟨above, rising⟩ := List.pairwise_cons.1 increasing
    rw [lookup, Ordered.find?, ih rising]
    by_cases same : k = key
    · subst same
      simp [Ordered.find_above above]
    · have other : compare key k ≠ .eq := by simpa using Ne.symm same
      rw [if_neg other, if_neg same]
      cases Ordered.find? key rest <;> rfl

theorem get_of_list (key : String) (fields : List (String × Json)) :
    (OrderedMap.ofList fields).get? key = lookup key fields := by
  have found := lookup_get key fields OrderedMap.empty
  rwa [show (OrderedMap.empty : OrderedMap String Json).get? key = none from rfl, Option.or_none] at found

theorem lookup_mapping (key : String) (fields : List (String × Json)) :
    lookup key (mapping fields) = lookup key fields := by
  rw [← get_of_list key fields, mapping, lookup_increasing _ _ (OrderedMap.ofList fields).increasing]
  rfl

theorem mem_mapping {fields : List (String × Json)} {e : String × Json} (here : e ∈ mapping fields) : e ∈ fields :=
  OrderedMap.mem_of_list here

theorem lookup_append (key : String) (front back : List (String × Json)) :
    lookup key (front ++ back) = (lookup key back).or (lookup key front) := by
  induction front with
  | nil => simp [lookup]
  | cons field rest ih =>
    obtain ⟨k, v⟩ := field
    rw [List.cons_append, lookup, ih, lookup]
    cases lookup key back <;> rfl

def alterFields (key : String) (f : Json → Json) (fields : List (String × Json)) : List (String × Json) :=
  fields.map fun e => (e.1, if e.1 = key then f e.2 else e.2)

def alter (key : String) (f : Json → Json) : Json → Json
  | .record fields => .record (alterFields key f fields)
  | j => j

def dropItem (i : Nat) : Json → Json
  | .list items => .list (items.eraseIdx i)
  | j => j

theorem lookup_alter (key k : String) (f : Json → Json) (fields : List (String × Json)) :
    lookup k (alterFields key f fields) = (lookup k fields).map fun j => if k = key then f j else j := by
  induction fields with
  | nil => rfl
  | cons field rest ih =>
    obtain ⟨j, v⟩ := field
    have split : alterFields key f ((j, v) :: rest) = (j, if j = key then f v else v) :: alterFields key f rest := rfl
    rw [split, lookup, lookup, ih]
    cases lookup k rest with
    | some later => rfl
    | none =>
      by_cases hit : j = k
      · subst hit
        simp
      · simp [hit]

theorem lookup_altered {key k : String} (f : Json → Json) (fields : List (String × Json)) (other : k ≠ key) :
    lookup k (alterFields key f fields) = lookup k fields := by
  rw [lookup_alter]
  simp [other]

theorem mapping_alter (key : String) (f : Json → Json) (fields : List (String × Json)) :
    mapping (alterFields key f fields) = alterFields key f (mapping fields) := by
  have same : OrderedMap.ofList (alterFields key f fields) =
      (OrderedMap.ofList fields).mapValues fun k j => if k = key then f j else j := by
    apply OrderedMap.ext_get
    intro k
    rw [OrderedMap.get_map_values, get_of_list, get_of_list, lookup_alter]
  exact congrArg OrderedMap.entries same

theorem alter_middle {key : String} {front back : List (String × Json)} (f : Json → Json) (j : Json)
    (away : ∀ e ∈ front ++ back, e.1 ≠ key) :
    alterFields key f (front ++ (key, j) :: back) = front ++ (key, f j) :: back := by
  have kept {part : List (String × Json)} (others : ∀ e ∈ part, e.1 ≠ key) : alterFields key f part = part := by
    refine (List.map_congr_left fun e member => ?_).trans (List.map_id _)
    rw [if_neg (others e member)]
    rfl
  have before := kept fun e member => away e (List.mem_append_left back member)
  have behind := kept fun e member => away e (List.mem_append_right front member)
  have split : alterFields key f (front ++ (key, j) :: back) =
      alterFields key f front ++ (key, if key = key then f j else j) :: alterFields key f back := by
    simp [alterFields]
  rw [split, before, behind, if_pos rfl]

end Deckwright.Json
