import Deckwright.Ordered
set_option autoImplicit false

/- Everything else about sets and maps is derived from these few equations; how they are stored is not looked
   at again. -/
namespace Deckwright

namespace Ordered

variable {α β : Type} [Ord α]

theorem mem_put {k : α} {v : β} {es : List (α × β)} {e : α × β} (member : e ∈ put k v es) : e = (k, v) ∨ e ∈ es := by
  induction es with
  | nil => exact .inl (List.mem_singleton.1 member)
  | cons first rest ih =>
    obtain ⟨j, w⟩ := first
    unfold put at member
    split at member
    · exact List.mem_cons.1 member
    · rcases List.mem_cons.1 member with new | old
      · exact .inl new
      · exact .inr (List.mem_cons_of_mem _ old)
    · rcases List.mem_cons.1 member with old | later
      · exact .inr (List.mem_cons.2 (.inl old))
      · exact (ih later).imp_right (List.mem_cons_of_mem _)

section Keys

variable [Std.LawfulEqOrd α]

theorem find_keys_put (x k : α) (v : β) (es : List (α × β)) :
    find? x (put k v es) = if compare x k = .eq then some v else find? x es := by
  induction es with
  | nil => simp [put, find?]
  | cons e rest ih =>
    obtain ⟨j, w⟩ := e
    unfold put
    split
    · simp [find?]
    · rename_i same
      obtain rfl := Std.LawfulEqCmp.eq_of_compare same
      by_cases hit : compare x k = .eq <;> simp [find?, hit]
    · rename_i more
      by_cases hit : compare x j = .eq
      · have other : compare x k ≠ .eq := by
          intro equal
          obtain rfl := Std.LawfulEqCmp.eq_of_compare equal
          obtain rfl := Std.LawfulEqCmp.eq_of_compare hit
          simp [Std.ReflCmp.compare_self] at more
        simp [find?, hit, other]
      · simp [find?, hit, ih]

theorem find_keys_erase (x k : α) (es : List (α × β)) :
    find? x (es.filter fun e => compare k e.1 != .eq) = if compare x k = .eq then none else find? x es := by
  induction es with
  | nil => simp [find?]
  | cons e rest ih =>
    obtain ⟨j, w⟩ := e
    by_cases gone : compare k j = .eq
    · obtain rfl := Std.LawfulEqCmp.eq_of_compare gone
      by_cases hit : compare x k = .eq <;> simp [find?, hit, ih]
    · by_cases hit : compare x j = .eq
      · obtain rfl := Std.LawfulEqCmp.eq_of_compare hit
        have other : compare x k ≠ .eq := by
          intro equal
          exact gone (by simpa using (Std.LawfulEqCmp.eq_of_compare equal).symm)
        simp [find?, gone, other]
      · simp [find?, gone, hit, ih]

theorem find_keys_map (x : α) (f : α → β → β) (es : List (α × β)) :
    find? x (es.map fun e => (e.1, f e.1 e.2)) = (find? x es).map (f x) := by
  induction es with
  | nil => rfl
  | cons e rest ih =>
    obtain ⟨j, w⟩ := e
    by_cases hit : compare x j = .eq
    · obtain rfl := Std.LawfulEqCmp.eq_of_compare hit
      simp [find?]
    · simp [find?, hit, ih]

theorem find_keys_isSome (x : α) (es : List (α × β)) :
    (find? x es).isSome ↔ x ∈ es.map Prod.fst := by
  induction es with
  | nil => simp [find?]
  | cons e rest ih =>
    obtain ⟨j, w⟩ := e
    by_cases hit : compare x j = .eq
    · simp [find?, Std.LawfulEqCmp.eq_of_compare hit]
    · have other : x ≠ j := fun same => hit (by simp [same])
      rw [find?, if_neg hit, ih]
      simp [other]

theorem mem_erase {a x : α} {xs : List α} : x ∈ erase a xs ↔ x ∈ xs ∧ x ≠ a := by
  simp only [erase, List.mem_filter, bne_iff_ne, ne_eq, Std.LawfulEqOrd.compare_eq_iff_eq]
  rw [eq_comm]

end Keys

theorem increasing_ext [Std.TransOrd α] [Std.LawfulEqOrd α] {xs ys : List α} (left : Increasing xs)
    (right : Increasing ys) (same : ∀ a, a ∈ xs ↔ a ∈ ys) : xs = ys := by
  induction xs generalizing ys with
  | nil =>
    cases ys with
    | nil => rfl
    | cons b bs => exact absurd ((same b).2 (by simp)) (by simp)
  | cons a as ih =>
    cases ys with
    | nil => exact absurd ((same a).1 (by simp)) (by simp)
    | cons b bs =>
      obtain ⟨aboveA, risingA⟩ := List.pairwise_cons.1 left
      obtain ⟨aboveB, risingB⟩ := List.pairwise_cons.1 right
      -- The first of either stands at or behind the first of the other.
      have first : a = b := by
        rcases List.mem_cons.1 ((same a).1 (by simp)) with equal | behind
        · exact equal
        · rcases List.mem_cons.1 ((same b).2 (by simp)) with equal | later
          · exact equal.symm
          · exact absurd (aboveB a behind) (Std.OrientedCmp.not_lt_of_lt (aboveA b later))
      subst first
      have fresh : ∀ {cs : List α}, (∀ c ∈ cs, compare a c = .lt) → a ∉ cs := by
        intro cs above member
        have less := above a member
        simp [Std.ReflCmp.compare_self] at less
      congr 1
      apply ih risingA risingB
      intro c
      have equivalent := same c
      simp only [List.mem_cons] at equivalent
      constructor
      · intro member
        have apart : c ≠ a := fun equal => fresh aboveA (equal ▸ member)
        simpa [apart, member] using equivalent
      · intro member
        have apart : c ≠ a := fun equal => fresh aboveB (equal ▸ member)
        simpa [apart, member] using equivalent

theorem keys_apart [Std.LawfulEqOrd α] {front back : List (α × β)} {k : α} {v : β}
    (increasing : Increasing ((front ++ (k, v) :: back).map Prod.fst)) : ∀ e ∈ front ++ back, e.1 ≠ k := by
  rw [List.map_append, List.map_cons] at increasing
  obtain ⟨_, later, across⟩ := List.pairwise_append.1 increasing
  intro e member same
  rcases List.mem_append.1 member with before | behind
  · have less := across e.1 (List.mem_map_of_mem before) k (by simp)
    simp [same, Std.ReflCmp.compare_self] at less
  · have less := (List.pairwise_cons.1 later).1 e.1 (List.mem_map_of_mem behind)
    simp [same, Std.ReflCmp.compare_self] at less

theorem find_above [Std.LawfulEqOrd α] {k : α} {es : List (α × β)} (above : ∀ x ∈ es.map Prod.fst, compare k x = .lt) :
    find? k es = none := by
  rw [← Option.not_isSome_iff_eq_none, find_keys_isSome]
  intro member
  have less := above k member
  simp [Std.ReflCmp.compare_self] at less

theorem find_eq_some_iff [Std.LawfulEqOrd α] {k : α} {v : β} {es : List (α × β)} (increasing : Increasing (es.map Prod.fst)) :
    find? k es = some v ↔ (k, v) ∈ es := by
  induction es with
  | nil => simp [find?]
  | cons e rest ih =>
    obtain ⟨j, w⟩ := e
    obtain ⟨above, rising⟩ := List.pairwise_cons.1 increasing
    by_cases hit : compare k j = .eq
    · obtain rfl := Std.LawfulEqCmp.eq_of_compare hit
      have fresh : (k, v) ∉ rest := by
        rw [← ih rising, find_above above]
        exact nofun
      simp [find?, fresh, eq_comm]
    · have other : k ≠ j := fun same => hit (by simp [same])
      simp [find?, hit, ih rising, other]

theorem entries_ext [Std.TransOrd α] [Std.LawfulEqOrd α] {es fs : List (α × β)}
    (left : Increasing (es.map Prod.fst)) (right : Increasing (fs.map Prod.fst))
    (same : ∀ x, find? x es = find? x fs) : es = fs := by
  have keys : es.map Prod.fst = fs.map Prod.fst := by
    apply increasing_ext left right
    intro x
    rw [← find_keys_isSome, ← find_keys_isSome, same]
  induction es generalizing fs with
  | nil => exact (List.map_eq_nil_iff.1 keys.symm).symm
  | cons e rest ih =>
    cases fs with
    | nil => cases keys
    | cons f tail =>
      obtain ⟨k, v⟩ := e
      obtain ⟨j, w⟩ := f
      obtain ⟨aboveK, risingK⟩ := List.pairwise_cons.1 left
      obtain ⟨aboveJ, risingJ⟩ := List.pairwise_cons.1 right
      obtain ⟨first, later⟩ := List.cons.inj keys
      dsimp only at first
      subst first
      have value : v = w := by simpa [find?] using same k
      have behind : ∀ x, find? x rest = find? x tail := by
        intro x
        by_cases hit : compare x k = .eq
        · obtain rfl := Std.LawfulEqCmp.eq_of_compare hit
          rw [find_above aboveK, find_above aboveJ]
        · simpa [find?, hit] using same x
      rw [value, ih risingK risingJ behind later]

end Ordered

namespace OrderedSet

variable {α : Type} [Ord α]

variable [Std.LawfulEqOrd α]

theorem contains_iff {s : OrderedSet α} {a : α} : s.contains a = true ↔ a ∈ s.toList := by
  simp [contains]

theorem mem_erase {s : OrderedSet α} {a x : α} : x ∈ (s.erase a).toList ↔ x ∈ s.toList ∧ x ≠ a :=
  Ordered.mem_erase

theorem contains_erase_self (s : OrderedSet α) (a : α) : (s.erase a).contains a = false := by
  rw [Bool.eq_false_iff, ne_eq, contains_iff, mem_erase]
  simp

theorem contains_erase_of_ne {s : OrderedSet α} {a x : α} (other : x ≠ a) : (s.erase a).contains x = s.contains x := by
  rw [Bool.eq_iff_iff, contains_iff, contains_iff, mem_erase]
  simp [other]

variable [Std.TransOrd α]

theorem ext_mem {s t : OrderedSet α} (same : ∀ a, a ∈ s.toList ↔ a ∈ t.toList) : s = t := by
  obtain ⟨xs, left⟩ := s
  obtain ⟨ys, right⟩ := t
  obtain rfl : xs = ys := Ordered.increasing_ext left right same
  rfl

theorem of_list_to_list (s : OrderedSet α) : ofList s.toList = s :=
  ext_mem fun _ => mem_ofList

theorem insert_many_append (s : OrderedSet α) (xs ys : List α) :
    s.insertMany (xs ++ ys) = (s.insertMany xs).insertMany ys := List.foldl_append

theorem contains_insert_self (s : OrderedSet α) (a : α) : (s.insert a).contains a = true :=
  contains_iff.2 (mem_insert.2 (.inl rfl))

theorem contains_insert_of_ne {s : OrderedSet α} {a x : α} (other : x ≠ a) : (s.insert a).contains x = s.contains x := by
  rw [Bool.eq_iff_iff, contains_iff, contains_iff, mem_insert]
  simp [other]

theorem insert_present {s : OrderedSet α} {a : α} (held : s.contains a = true) : s.insert a = s := by
  refine ext_mem fun x => ?_
  rw [mem_insert, or_iff_right_iff_imp]
  rintro rfl
  exact contains_iff.1 held

theorem erase_absent {s : OrderedSet α} {a : α} (absent : s.contains a = false) : s.erase a = s := by
  refine ext_mem fun x => ?_
  rw [mem_erase, and_iff_left_iff_imp]
  rintro member rfl
  exact Bool.eq_false_iff.1 absent (contains_iff.2 member)

end OrderedSet

namespace OrderedMap

variable {α β : Type} [Ord α]

variable [Std.LawfulEqOrd α]

theorem get_isSome_iff (m : OrderedMap α β) (x : α) : (m.get? x).isSome ↔ x ∈ m.keys :=
  Ordered.find_keys_isSome x m.entries

theorem get_eq_some_iff (m : OrderedMap α β) (x : α) (v : β) : m.get? x = some v ↔ (x, v) ∈ m.entries :=
  Ordered.find_eq_some_iff m.increasing

theorem get_map_values (m : OrderedMap α β) (f : α → β → β) (x : α) :
    (m.mapValues f).get? x = (m.get? x).map (f x) :=
  Ordered.find_keys_map x f m.entries

theorem keys_nodup (m : OrderedMap α β) : m.keys.Nodup := by
  refine m.increasing.imp fun {a b} less equal => ?_
  subst equal
  simp [Std.ReflCmp.compare_self] at less

theorem ext_get [Std.TransOrd α] {m n : OrderedMap α β} (same : ∀ x, m.get? x = n.get? x) : m = n := by
  obtain ⟨es, left⟩ := m
  obtain ⟨fs, right⟩ := n
  obtain rfl : es = fs := Ordered.entries_ext left right same
  rfl

theorem mem_fold [Std.TransOrd α] {es : List (α × β)} {m : OrderedMap α β} {e : α × β}
    (member : e ∈ (es.foldl (fun m e => m.insert e.1 e.2) m).entries) : e ∈ es ∨ e ∈ m.entries := by
  induction es generalizing m with
  | nil => exact .inr member
  | cons first rest ih =>
    rcases ih member with later | here
    · exact .inl (List.mem_cons_of_mem _ later)
    · exact (Ordered.mem_put here).imp_left fun new => List.mem_cons.2 (.inl new)

theorem mem_of_list [Std.TransOrd α] {es : List (α × β)} {e : α × β} (member : e ∈ (ofList es).entries) : e ∈ es :=
  (mem_fold member).resolve_right List.not_mem_nil

variable [DecidableEq α]

theorem get_erase (m : OrderedMap α β) (k x : α) :
    (m.erase k).get? x = if x = k then none else m.get? x := by
  simp only [get?, erase, Ordered.find_keys_erase, Std.LawfulEqOrd.compare_eq_iff_eq]

theorem get_insert [Std.TransOrd α] (m : OrderedMap α β) (k x : α) (v : β) :
    (m.insert k v).get? x = if x = k then some v else m.get? x := by
  simp only [get?, insert, Ordered.find_keys_put, Std.LawfulEqOrd.compare_eq_iff_eq]

theorem get_fold [Std.TransOrd α] {es : List (α × β)} (increasing : Ordered.Increasing (es.map Prod.fst))
    (m : OrderedMap α β) (x : α) :
    (es.foldl (fun m e => m.insert e.1 e.2) m).get? x = (Ordered.find? x es).or (m.get? x) := by
  induction es generalizing m with
  | nil => rfl
  | cons e rest ih =>
    obtain ⟨k, v⟩ := e
    obtain ⟨above, rising⟩ := List.pairwise_cons.1 increasing
    rw [List.foldl_cons, ih rising, get_insert, Ordered.find?]
    by_cases same : x = k
    · subst same
      simp [Ordered.find_above above]
    · simp [same]

theorem of_list_entries [Std.TransOrd α] (m : OrderedMap α β) : ofList m.entries = m :=
  ext_get fun x => (get_fold m.increasing empty x).trans Option.or_none

end OrderedMap

end Deckwright
