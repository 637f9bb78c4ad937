set_option autoImplicit false

namespace Deckwright

theorem bind_ok {α β ε : Type} {x : Except ε α} {f : α → Except ε β} {b : β} :
    (x >>= f) = .ok b ↔ ∃ a, x = .ok a ∧ f a = .ok b := by
  cases x with
  | error e => exact iff_of_false nofun (by simp)
  | ok a => exact ⟨fun taken => ⟨a, rfl, taken⟩, fun ⟨_, same, taken⟩ => Except.ok.inj same ▸ taken⟩

theorem ok_of_map {α β ε : Type} {f : α → β} {x : Except ε α} {b : β} (found : x.map f = .ok b) :
    ∃ a, x = .ok a ∧ b = f a := by
  cases x with
  | error e => cases found
  | ok a => exact ⟨a, rfl, (Except.ok.inj found).symm⟩

theorem to_option_some {α ε : Type} {x : Except ε α} {a : α} : x.toOption = some a ↔ x = .ok a := by
  cases x with
  | error e => exact iff_of_false nofun nofun
  | ok b => exact ⟨fun same => congrArg Except.ok (Option.some.inj same), fun same => congrArg some (Except.ok.inj same)⟩

theorem folded_cons {α β ε : Type} {step : β → α → Except ε β} {a : α} {rest : List α} {b full : β} :
    (a :: rest).foldlM step b = .ok full ↔ ∃ next, step b a = .ok next ∧ rest.foldlM step next = .ok full := by
  rw [List.foldlM_cons]
  exact bind_ok

theorem mem_of_mapM {α β ε : Type} {f : α → Except ε β} {xs : List α} {ys : List β} (found : xs.mapM f = .ok ys) :
    ∀ y ∈ ys, ∃ x ∈ xs, f x = .ok y := by
  induction xs generalizing ys with
  | nil =>
    obtain rfl := Except.ok.inj found
    simp
  | cons x rest ih =>
    rw [List.mapM_cons] at found
    obtain ⟨y, first, found⟩ := bind_ok.1 found
    obtain ⟨zs, later, found⟩ := bind_ok.1 found
    obtain rfl := Except.ok.inj found
    intro z member
    rcases List.mem_cons.1 member with rfl | member
    · exact ⟨x, by simp, first⟩
    · obtain ⟨w, inside, same⟩ := ih later z member
      exact ⟨w, List.mem_cons_of_mem x inside, same⟩

theorem error_of_mapM {α β ε : Type} {f : α → Except ε β} {xs : List α} {e : ε} (found : xs.mapM f = .error e) :
    ∃ x ∈ xs, f x = .error e := by
  induction xs with
  | nil => cases found
  | cons x rest ih =>
    rw [List.mapM_cons] at found
    cases first : f x with
    | error e =>
      rw [first] at found
      cases found
      exact ⟨x, by simp, first⟩
    | ok y =>
      cases later : rest.mapM f with
      | error e =>
        rw [first, later] at found
        cases found
        obtain ⟨w, inside, same⟩ := ih later
        exact ⟨w, List.mem_cons_of_mem x inside, same⟩
      | ok zs =>
        rw [first, later] at found
        cases found

theorem mapM_map {α β γ ε : Type} {f : β → Except ε α} {g : γ → β} {h : γ → α} {xs : List γ}
    (each : ∀ x ∈ xs, f (g x) = .ok (h x)) : (xs.map g).mapM f = .ok (xs.map h) := by
  induction xs with
  | nil => rfl
  | cons x rest ih =>
    rw [List.map_cons, List.mapM_cons, each x (by simp), ih fun y member => each y (List.mem_cons_of_mem x member)]
    rfl

theorem mapM_written {α β ε : Type} {f : β → Except ε α} {g : α → β} {xs : List α}
    (back : ∀ x ∈ xs, f (g x) = .ok x) : (xs.map g).mapM f = .ok xs := by
  have all := mapM_map back
  rwa [List.map_id'] at all

end Deckwright
