import Deckwright.Filter.Edit
set_option autoImplicit false

namespace Deckwright

theorem mem_modify {α : Type} {f : α → α} {xs : List α} {i : Nat} {y : α} (member : y ∈ xs.modify i f) :
    y ∈ xs ∨ ∃ x ∈ xs, f x = y := by
  obtain ⟨j, access⟩ := List.mem_iff_getElem?.1 member
  rw [List.getElem?_modify] at access
  cases old : xs[j]? with
  | none => simp [old] at access
  | some x =>
    have inside := List.mem_of_getElem? old
    by_cases hit : i = j
    · simp only [old, if_pos hit, Option.map_eq_map, Option.map_some, Option.some.injEq] at access
      exact .inr ⟨x, inside, access⟩
    · simp only [old, if_neg hit, Option.map_eq_map, Option.map_some, Option.some.injEq] at access
      exact .inl (access ▸ inside)

namespace Filter

theorem of_group_ok {m : GroupMode} {fs : List Filter} {f : Filter} (made : ofGroup m fs = .ok f) :
    fs ≠ [] ∧ f = .group m fs := by
  unfold ofGroup at made
  split at made
  · cases made
  · rename_i some
    exact ⟨by simpa using some, (Except.ok.inj made).symm⟩

/-- A group has the property just when there is a filter in it and all filters in it have it. -/
def Inherited (P : Filter → Prop) : Prop := ∀ m fs, P (.group m fs) ↔ fs ≠ [] ∧ ∀ f ∈ fs, P f

namespace Inherited

variable {P : Filter → Prop} {m : GroupMode} {fs : List Filter} {f g : Filter} {i : Nat}

theorem part (inherited : Inherited P) {path : List Nat} (whole : P f) (there : at? path f = some g) : P g := by
  induction path generalizing f with
  | nil =>
    obtain rfl := Option.some.inj there
    exact whole
  | cons i path ih =>
    cases f with
    | leaf => cases there
    | group m fs =>
      obtain ⟨child, access, below⟩ := Option.bind_eq_some_iff.1 there
      exact ih (((inherited m fs).1 whole).2 child (List.mem_of_getElem? access)) below

theorem putAt (inherited : Inherited P) (path : List Nat) (whole : P f) (new : P g) : P (f.putAt path g) := by
  induction path generalizing f with
  | nil =>
    cases f <;> exact new
  | cons i path ih =>
    cases f with
    | leaf => exact whole
    | group m fs =>
      obtain ⟨some, all⟩ := (inherited m fs).1 whole
      unfold Filter.putAt
      refine (inherited _ _).2 ⟨by simpa using some, fun child member => ?_⟩
      rcases mem_modify member with old | ⟨before, inside, rfl⟩
      · exact all child old
      · exact ih (all before inside)

theorem ofGroup (inherited : Inherited P) (all : ∀ g ∈ fs, P g) (made : Filter.ofGroup m fs = .ok f) : P f := by
  obtain ⟨some, rfl⟩ := of_group_ok made
  exact (inherited m fs).2 ⟨some, all⟩

theorem append (inherited : Inherited P) (old : ∀ g ∈ fs, P g) (child : P f) : P (.group m (fs ++ [f])) := by
  refine (inherited _ _).2 ⟨by simp, fun g member => ?_⟩
  rcases List.mem_append.1 member with before | new
  · exact old g before
  · exact List.mem_singleton.1 new ▸ child

theorem push (inherited : Inherited P) (old : P (.group m fs)) (child : P f) : P (Filter.push m fs f) :=
  inherited.append ((inherited m fs).1 old).2 child

theorem set (inherited : Inherited P) (old : P (.group m fs)) (child : P f) : P (.group m (fs.set i f)) := by
  obtain ⟨some, all⟩ := (inherited m fs).1 old
  refine (inherited _ _).2 ⟨by simpa using some, fun g member => ?_⟩
  rcases List.mem_or_eq_of_mem_set member with before | rfl
  · exact all g before
  · exact child

theorem mode (inherited : Inherited P) (new : GroupMode) (old : P (.group m fs)) : P (.group new fs) :=
  (inherited new fs).2 ((inherited m fs).1 old)

theorem combine (inherited : Inherited P) (m : GroupMode) (left : P f) (right : P g) : P (Filter.combine m f g) := by
  have pair : P (.group m [f, g]) := by
    have single : ∀ h ∈ [f], P h := by simpa using left
    exact inherited.append single right
  unfold Filter.combine
  split
  · split
    · exact inherited.push left right
    · exact pair
  · exact pair

theorem remove (inherited : Inherited P) {gone rest : Filter} (old : P (.group m fs))
    (removed : Filter.remove m fs i = .ok (gone, rest)) : P rest := by
  unfold Filter.remove at removed
  split at removed
  · cases removed
  · rename_i several
    split at removed
    · rename_i access
      obtain ⟨rfl, rfl⟩ := Prod.mk.inj (Except.ok.inj removed)
      refine (inherited _ _).2 ⟨?_, fun g member => ((inherited m fs).1 old).2 g (List.mem_of_mem_eraseIdx member)⟩
      intro none
      have length := congrArg List.length none
      obtain ⟨within, _⟩ := List.getElem?_eq_some_iff.1 access
      rw [List.length_eraseIdx_of_lt within, List.length_nil] at length
      omega
    · cases removed

theorem wrap (inherited : Inherited P) {inner : GroupMode} (old : P (.group m fs))
    (wrapped : Filter.wrap m fs i inner = .ok f) : P f := by
  unfold Filter.wrap at wrapped
  split at wrapped
  · rename_i child access
    obtain rfl := Except.ok.inj wrapped
    have held := ((inherited m fs).1 old).2 child (List.mem_of_getElem? access)
    exact inherited.set old ((inherited _ _).2 ⟨by simp, by simpa using held⟩)
  · cases wrapped

theorem replace (inherited : Inherited P) (old : P (.group m fs)) (child : P g)
    (replaced : Filter.replace m fs i g = .ok f) : P f := by
  unfold Filter.replace at replaced
  split at replaced
  · obtain rfl := Except.ok.inj replaced
    exact inherited.set old child
  · cases replaced

end Inherited

end Filter

end Deckwright
