import Deckwright.Proofs.Filter.Bracketed
import Deckwright.Proofs.Filter.WellFormed
import Mathlib.Algebra.Ring.Nat
set_option autoImplicit false

namespace Deckwright

namespace Text

-- The bracketed pieces with no other piece in them, from left to right. opened is what has been
-- passed since the last opening bracket, last character first, while no bracket has closed it.
def innermostFrom (escaped : Bool) (opened : Option (List Char)) : List Char → List (List Char)
  | [] => []
  | c :: s =>
    if escaped then innermostFrom false (opened.map (c :: ·)) s
    else if c = '\\' then innermostFrom true (opened.map (c :: ·)) s
    else if c = '<' then innermostFrom false (some [c]) s
    else if c = '>' then (opened.map fun piece => (c :: piece).reverse).toList ++ innermostFrom false none s
    else innermostFrom false (opened.map (c :: ·)) s

def innermost (s : List Char) : List (List Char) := innermostFrom false none s

section Innermost

variable {opened : Option (List Char)} {s inner : List Char}

theorem innermost_plain {c : Char} (passed : c ∉ bracketSpecials) :
    innermostFrom false opened (c :: s) = innermostFrom false (opened.map (c :: ·)) s := by
  simp only [bracketSpecials, List.mem_cons, List.not_mem_nil, or_false, not_or] at passed
  simp [innermostFrom, passed]

theorem innermost_pair (c : Char) :
    innermostFrom false opened ('\\' :: c :: s) = innermostFrom false (opened.map (c :: '\\' :: ·)) s := by
  cases opened <;> simp [innermostFrom]

theorem innermost_sealed (closed : Sealed ['<', '>'] inner) :
    innermostFrom false opened (inner ++ s) = innermostFrom false (opened.map (inner.reverse ++ ·)) s := by
  induction closed generalizing opened with
  | nil => simp
  | @plain c t other passed _ ih =>
    have sign : c ∉ bracketSpecials := by
      simp only [bracketSpecials, List.mem_cons, not_or] at passed ⊢
      exact ⟨other, passed⟩
    rw [List.cons_append, innermost_plain sign, ih]
    cases opened <;> simp
  | @pair t c _ ih =>
    rw [List.cons_append, List.cons_append, innermost_pair, ih]
    cases opened <;> simp

theorem innermost_piece (closed : Sealed ['<', '>'] inner) :
    innermostFrom false opened ('<' :: (inner ++ '>' :: s)) = ('<' :: (inner ++ ['>'])) :: innermostFrom false none s := by
  rw [innermostFrom, if_neg (by decide), if_neg (by decide), if_pos rfl, innermost_sealed closed]
  simp [innermostFrom]

end Innermost

end Text

theorem Operand.whole_of_tidy {o : Operand} (tidy : o.Tidy) : o.blemish? = Option.none := by
  cases o with
  | number x =>
    obtain ⟨finite, plus⟩ := tidy
    simp [blemish?, finite, plus]
  | options values =>
    have each : ∀ v ∈ values.toList, ¬ (v.isEmpty || Text.trimmed v != v) = true := by
      intro v member
      obtain ⟨some, bare⟩ := tidy v member
      simp [some, Text.trimmed_bare bare]
    rw [blemish?, List.find?_eq_none.2 each]
    rfl
  | _ => rfl

theorem map_set_same {α β : Type} {f : α → β} {xs : List α} {i : Nat} {x y : α} (access : xs[i]? = some x)
    (same : f y = f x) : (xs.set i y).map f = xs.map f := by
  obtain ⟨within, rfl⟩ := List.getElem?_eq_some_iff.1 access
  rw [List.map_set, same, ← List.getElem_map f (h := by simpa using within), List.set_getElem_self]

def GroupMode.gather : GroupMode → List Bool → Bool
  | .and, found => found.all id
  | .or, found => found.any id

namespace Filter

section Parts

variable {m : GroupMode} {fs : List Filter} {f g child : Filter} {path : List Nat} {i : Nat}

/-- What is known of a group follows from its mode and what is known of the filters in it. -/
def Composed {α : Type} (value : Filter → α) : Prop :=
  ∃ gather : GroupMode → List α → α, ∀ m fs, value (.group m fs) = gather m (fs.map value)

theorem Composed.put_at {α : Type} {value : Filter → α} (composed : Composed value) (there : at? path f = some child)
    (same : value g = value child) : value (f.putAt path g) = value f := by
  obtain ⟨gather, grouped⟩ := composed
  induction path generalizing f with
  | nil =>
    obtain rfl := Option.some.inj there
    cases f <;> exact same
  | cons i path ih =>
    cases f with
    | leaf => cases there
    | group m fs =>
      obtain ⟨part, access, below⟩ := Option.bind_eq_some_iff.1 there
      rw [putAt, List.modify_eq_set, access, Option.getD_some, grouped, grouped]
      exact congrArg (gather m) (map_set_same access (ih below))

theorem at_append (path rest : List Nat) (f : Filter) : at? (path ++ rest) f = (at? path f).bind (at? rest) := by
  induction path generalizing f with
  | nil => rfl
  | cons i path ih =>
    cases f with
    | leaf => rfl
    | group m fs =>
      simp only [List.cons_append, at?]
      cases fs[i]? with
      | none => rfl
      | some part => exact ih part

theorem at_put_at (there : at? path f = some child) : at? path (f.putAt path g) = some g := by
  induction path generalizing f with
  | nil => cases f <;> rfl
  | cons i path ih =>
    cases f with
    | leaf => cases there
    | group m fs =>
      obtain ⟨part, access, below⟩ := Option.bind_eq_some_iff.1 there
      simp [putAt, at?, access, ih below]

theorem after_wrap (inner : GroupMode) (there : at? path f = some (.group m fs)) (access : fs[i]? = some child) :
    f.afterAt path (.wrap i inner) = f.putAt path (.group m (fs.set i (.group inner [child]))) := by
  rw [afterAt, there]
  simp [after, wrap, access, settled]

theorem wrapped_at (inner : GroupMode) (there : at? path f = some (.group m fs)) (access : fs[i]? = some child) :
    at? (path ++ [i]) (f.afterAt path (.wrap i inner)) = some (.group inner [child]) := by
  obtain ⟨within, _⟩ := List.getElem?_eq_some_iff.1 access
  rw [after_wrap inner there access, at_append, at_put_at there]
  simp [at?, within]

theorem Composed.wrap {α : Type} {value : Filter → α} (composed : Composed value)
    (single : ∀ m f, value (.group m [f]) = value f) (inner : GroupMode) (there : at? path f = some (.group m fs))
    (access : fs[i]? = some child) : value (f.afterAt path (.wrap i inner)) = value f := by
  rw [after_wrap inner there access]
  refine composed.put_at there ?_
  obtain ⟨gather, grouped⟩ := composed
  rw [grouped, grouped, map_set_same access (single inner child)]

end Parts

section Matching

variable (card : Card)

theorem test_group (m : GroupMode) (fs : List Filter) :
    test card (.group m fs) = GroupMode.gather m (fs.map (test card)) := by
  cases m with
  | and => rw [test, test_all, GroupMode.gather, List.all_map, Function.id_comp]
  | or => rw [test, test_any, GroupMode.gather, List.any_map, Function.id_comp]

theorem test_composed : Composed (test card) := ⟨GroupMode.gather, test_group card⟩

theorem test_single (m : GroupMode) (f : Filter) : test card (.group m [f]) = test card f := by
  rw [test_group]
  cases m <;> simp [GroupMode.gather]

end Matching

theorem leaves_group (m : GroupMode) (fs : List Filter) : leaves (.group m fs) = (fs.map leaves).flatten := by
  rw [leaves, leaves_all, List.flatMap_def]

theorem leaves_composed : Composed leaves := ⟨fun _ => List.flatten, leaves_group⟩

theorem leaves_single (m : GroupMode) (f : Filter) : leaves (.group m [f]) = leaves f := by
  rw [leaves_group, List.map_singleton, List.flatten_singleton]

section Combined

variable (m : GroupMode) (f g : Filter)

theorem combine_cases : combine m f g = .group m [f, g] ∨
    ∃ fs, f = .group m fs ∧ combine m f g = .group m (fs ++ [g]) := by
  unfold combine
  split
  · rename_i n fs
    by_cases same : n = m
    · subst same
      exact .inr ⟨fs, rfl, if_pos rfl⟩
    · exact .inl (if_neg same)
  · exact .inl rfl

theorem test_combine (card : Card) :
    test card (combine m f g) = GroupMode.gather m [test card f, test card g] := by
  rcases combine_cases m f g with pair | ⟨fs, rfl, joined⟩
  · rw [pair, test_group, List.map_cons, List.map_singleton]
  · rw [joined, test_group, test_group]
    cases m <;> simp [GroupMode.gather]

theorem leaves_combine : (combine m f g).leaves = f.leaves ++ g.leaves := by
  rcases combine_cases m f g with pair | ⟨fs, rfl, joined⟩
  · simp [pair, leaves_group]
  · simp [joined, leaves_group]

end Combined

section Order

theorem sizes_sum (fs : List Filter) : (fs.map sizeOf).sum < sizeOf fs := by
  induction fs with
  | nil => simp
  | cons f rest ih =>
    simp only [List.map_cons, List.sum_cons, List.cons.sizeOf_spec]
    omega

-- The leaves as they come off a stack whose top is in front: the filters of a group go back on
-- the stack, the first one on top.
def walk : List Filter → List Leaf
  | [] => []
  | .leaf l :: stack => l :: walk stack
  | .group _ fs :: stack => walk (fs ++ stack)
termination_by stack => (stack.map sizeOf).sum
decreasing_by
  · rw [List.map_cons, List.sum_cons, leaf.sizeOf_spec]
    omega
  · have less := sizes_sum fs
    rw [List.map_append, List.sum_append, List.map_cons, List.sum_cons, group.sizeOf_spec]
    omega

theorem walk_leaves (stack : List Filter) : walk stack = stack.flatMap leaves := by
  fun_induction walk stack with
  | case1 => rfl
  | case2 l stack ih => rw [ih, List.flatMap_cons, leaves, List.singleton_append]
  | case3 m fs stack ih => rw [ih, List.flatMap_append, List.flatMap_cons, leaves, leaves_all]

open Text (innermostFrom)

variable {opened : Option (List Char)} {s : List Char}

theorem innermost_leaf {l : Leaf} (sound : l.Sound) :
    innermostFrom false opened (l.written ++ s) = l.written :: innermostFrom false none s := by
  have closed := (Leaf.inner_inline (Operand.whole_of_tidy sound.tidy)).closed
  have shape : l.written ++ s = '<' :: (l.inner ++ '>' :: s) := by simp [Leaf.written_bracketed]
  rw [shape, Text.innermost_piece closed, Leaf.written_bracketed]

theorem innermost_spaced {fs : List Filter} (each : ∀ f ∈ fs, ∀ opened s,
      innermostFrom false opened (f.written ++ s) = f.leaves.map Leaf.written ++ innermostFrom false none s) :
    innermostFrom false opened (spaced fs ++ s) = (fs.flatMap leaves).map Leaf.written ++
      innermostFrom false (if fs = [] then opened else none) s := by
  induction fs generalizing opened with
  | nil => rfl
  | cons f rest ih =>
    have shape : spaced (f :: rest) ++ s = ' ' :: (f.written ++ (spaced rest ++ s)) := by simp [spaced]
    rw [shape, Text.innermost_plain (by decide), each f (by simp), ih fun g member => each g (List.mem_cons_of_mem f member)]
    simp

theorem innermost_written {f : Filter} (formed : f.WellFormed) :
    innermostFrom false opened (f.written ++ s) = f.leaves.map Leaf.written ++ innermostFrom false none s := by
  induction formed generalizing opened s with
  | leaf sound => exact innermost_leaf sound
  | @group m fs some _ ih =>
    have shape : written (.group m fs) ++ s = '<' :: (m.keyword.toList ++ (spaced fs ++ '>' :: s)) := by
      simp [written_group]
    rw [shape, innermostFrom, if_neg (by decide), if_neg (by decide), if_pos rfl,
      Text.innermost_sealed (GroupMode.keyword_inline m).1.closed, innermost_spaced fun f member _ _ => ih f member,
      if_neg some, leaves, leaves_all]
    simp [innermostFrom]

end Order

/-- A filter put together from two matches where both match, or where one of them does, and has the leaves
    of the first in front of those of the second. A group put around a filter somewhere inside another one
    changes neither what that matches nor its leaves. The leaves come off a stack in their order, and are
    written in it: they are the innermost brackets of the text. -/
theorem meaning_and_leaves_kept (f g : Filter) :
    (∀ card, ((f.and g).matchesCard card = true ↔ f.matchesCard card = true ∧ g.matchesCard card = true) ∧
      ((f.or g).matchesCard card = true ↔ f.matchesCard card = true ∨ g.matchesCard card = true)) ∧
    (f.and g).leaves = f.leaves ++ g.leaves ∧ (f.or g).leaves = f.leaves ++ g.leaves ∧
    (∀ path m fs i child inner, at? path f = some (.group m fs) → fs[i]? = some child →
      let wrapped := f.afterAt path (.wrap i inner)
      at? (path ++ [i]) wrapped = some (.group inner [child]) ∧
        (∀ card, wrapped.matchesCard card = f.matchesCard card) ∧ wrapped.leaves = f.leaves) ∧
    walk [f] = f.leaves ∧
    (f.WellFormed → Text.innermost f.toText.toList = f.leaves.map Leaf.written) := by
  refine ⟨fun card => ⟨?_, ?_⟩, leaves_combine .and f g, leaves_combine .or f g, ?_, ?_, fun formed => ?_⟩
  · simp [matchesCard, Filter.and, test_combine, GroupMode.gather]
  · simp [matchesCard, Filter.or, test_combine, GroupMode.gather]
  · intro path m fs i child inner there access
    refine ⟨wrapped_at inner there access, fun card => ?_, ?_⟩
    · exact (test_composed card).wrap (test_single card) inner there access
    · exact leaves_composed.wrap leaves_single inner there access
  · rw [walk_leaves, List.flatMap_singleton]
  · have whole := @innermost_written none [] f formed
    rw [List.append_nil, Text.innermostFrom, List.append_nil] at whole
    rw [toText, String.toList_ofList, Text.innermost, whole]

theorem legal_wrapped_in_place :
    let legal : Leaf := ⟨.legality, .contains .exactly, Operand.ofFormats ["<A> b"] true⟩
    let f := nothing.and ((Filter.leaf legal).or everything)
    let wrapped := f.afterAt [1] (.wrap 0 .and)
    at? [1, 0] wrapped = some (.group .and [.leaf legal]) ∧
      (∀ card, wrapped.matchesCard card = f.matchesCard card) ∧
      wrapped.leaves = [Leaf.standard .noCard, legal, Leaf.standard .anyCard] ∧
      Text.innermost wrapped.toText.toList = ["<0>".toList, "<legal:e\x7b\\<a\\> b\x7dr>".toList, "<*>".toList] := by
  intro legal f wrapped
  obtain ⟨_, _, _, wrap, _, _⟩ := meaning_and_leaves_kept f everything
  obtain ⟨there, matching, leaves⟩ := wrap [1] .or [.leaf legal, everything] 0 (.leaf legal) .and rfl rfl
  have same : wrapped.leaves = [Leaf.standard .noCard, legal, Leaf.standard .anyCard] := leaves.trans rfl
  have built : wrapped.Built := by
    refine .edit [1] (.combine .and (.standard .noCard) (.combine .or (.legality .exactly ["<A> b"] true) (.standard .anyCard))) ?_
    simp [Edit.brought]
  obtain ⟨_, _, _, _, _, written⟩ := meaning_and_leaves_kept wrapped everything
  refine ⟨there, matching, same, (written (well_formed_of_built built)).trans ?_⟩
  rw [same]
  decide +kernel

end Filter

end Deckwright
