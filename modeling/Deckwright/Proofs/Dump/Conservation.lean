import Mathlib.Data.List.Perm.Basic
import Deckwright.Proofs.Dump.Assembly
import Deckwright.Proofs.Ordered
set_option autoImplicit false

namespace Deckwright

namespace Slot

-- A slot of one printing takes no other one.
def take (p : Printing) : Slot → Slot
  | .single q => .single q
  | .faces key ps => .faces key (ps ++ [p])

theorem take_key (p : Printing) (slot : Slot) : (slot.take p).key? = slot.key? := by
  cases slot <;> rfl

theorem put_face_place (key : String) (p : Printing) (slots : List Slot) :
    putFace key p slots =
      match slots.findIdx? fun slot => slot.key? = some key with
      | some i => slots.modify i (take p)
      | none => slots ++ [.faces key [p]] := by
  induction slots with
  | nil => rfl
  | cons first rest ih =>
    by_cases here : first.key? = some key
    · cases first with
      | single q => cases here
      | faces k qs =>
        obtain rfl : k = key := Option.some.inj here
        rw [putFace, if_pos rfl, List.findIdx?_cons, decide_eq_true here]
        rfl
    · have passed : putFace key p (first :: rest) = first :: putFace key p rest := by
        cases first with
        | single q => rfl
        | faces k qs => rw [putFace, if_neg fun same => here (congrArg some same)]
      rw [passed, ih, List.findIdx?_cons, decide_eq_false here]
      cases rest.findIdx? fun slot => slot.key? = some key with
      | none => rfl
      | some i => rfl

theorem place_taken (p : Printing) (key : String) (i : Nat) (slots : List Slot) :
    (slots.modify i (take p)).findIdx? (fun slot => slot.key? = some key) =
      slots.findIdx? fun slot => slot.key? = some key := by
  have keys : (slots.modify i (take p)).map key? = slots.map key? := by
    apply List.ext_getElem?
    intro j
    simp only [List.getElem?_map, List.getElem?_modify]
    split
    · cases slots[j]? with
      | none => rfl
      | some slot => exact congrArg some (take_key p slot)
    · cases slots[j]? <;> rfl
  have found (slots : List Slot) : (slots.map key?).findIdx? (fun k => k = some key) =
      slots.findIdx? fun slot => slot.key? = some key := List.findIdx?_map
  rw [← found, keys, found]

end Slot

structure Rack where
  slots : List Slot
  places : OrderedMap String Nat

namespace Rack

def put (r : Rack) (p : Printing) : Rack :=
  match p.joinKey with
  | none => { r with slots := r.slots ++ [.single p] }
  | some key =>
    match r.places.get? key with
    | some i => { r with slots := r.slots.modify i (Slot.take p) }
    | none => ⟨r.slots ++ [.faces key [p]], r.places.insert key r.slots.length⟩

def ofPrintings (ps : List Printing) : Rack := ps.foldl put ⟨[], ∅⟩

structure Kept (ps : List Printing) (r : Rack) : Prop where
  slots : r.slots = Slot.ofPrintings ps
  places : ∀ key, r.places.get? key = r.slots.findIdx? fun slot => slot.key? = some key

theorem kept_put {ps : List Printing} {r : Rack} (kept : Kept ps r) (p : Printing) :
    Kept (ps ++ [p]) (r.put p) := by
  have last : Slot.ofPrintings (ps ++ [p]) = Slot.put r.slots p := by
    rw [kept.slots, Slot.ofPrintings, List.foldl_concat]
    rfl
  cases joins : p.joinKey with
  | none =>
    rw [put, joins]
    refine ⟨?_, fun key => ?_⟩
    · rw [last, Slot.put, joins]
    · dsimp only
      rw [kept.places, List.findIdx?_append]
      cases r.slots.findIdx? fun slot => slot.key? = some key <;> rfl
  | some key =>
    have placed : Slot.put r.slots p = match r.places.get? key with
        | some i => r.slots.modify i (Slot.take p)
        | none => r.slots ++ [.faces key [p]] := by
      rw [Slot.put, joins, kept.places]
      exact Slot.put_face_place key p r.slots
    rw [put, joins]
    dsimp only
    cases held : r.places.get? key with
    | some i =>
      rw [held] at placed
      exact ⟨(last.trans placed).symm, fun k => (kept.places k).trans (Slot.place_taken p k i r.slots).symm⟩
    | none =>
      rw [held] at placed
      refine ⟨(last.trans placed).symm, fun k => ?_⟩
      dsimp only
      rw [OrderedMap.get_insert, List.findIdx?_append, ← kept.places]
      by_cases own : k = key
      · subst own
        simp [held, Slot.key?]
      · simp [own, Ne.symm own, Slot.key?]

theorem of_printings_kept (ps : List Printing) : Kept ps (ofPrintings ps) := by
  induction ps using List.reverseRecOn with
  | nil => exact ⟨rfl, fun _ => rfl⟩
  | append_singleton ps p ih =>
    rw [ofPrintings, List.foldl_concat]
    exact kept_put ih p

-- No printing is passed over because its key leads to another kind of slot.
theorem kept_faces {ps : List Printing} {r : Rack} (kept : Kept ps r) {key : String} {i : Nat}
    (held : r.places.get? key = some i) : ∃ qs, r.slots[i]? = some (.faces key qs) := by
  rw [kept.places] at held
  obtain ⟨within, same, _⟩ := List.findIdx?_eq_some_iff_getElem.1 held
  have keyed : r.slots[i].key? = some key := of_decide_eq_true same
  rw [List.getElem?_eq_getElem within]
  cases slot : r.slots[i] with
  | single q =>
    rw [slot] at keyed
    cases keyed
  | faces k qs =>
    rw [slot] at keyed
    obtain rfl : k = key := Option.some.inj keyed
    exact ⟨qs, rfl⟩

end Rack

namespace Slot

theorem put_face_printings (key : String) (p : Printing) (slots : List Slot) :
    ((putFace key p slots).flatMap printings).Perm (slots.flatMap printings ++ [p]) := by
  induction slots with
  | nil => exact .refl _
  | cons first rest ih =>
    cases first with
    | single q => exact ih.cons q
    | faces k qs =>
      rw [putFace]
      split
      · simp only [List.flatMap_cons, printings, List.append_assoc]
        exact List.perm_append_comm.append_left qs
      · simp only [List.flatMap_cons, List.append_assoc]
        exact ih.append_left qs

theorem put_printings (p : Printing) (slots : List Slot) :
    ((put slots p).flatMap printings).Perm (slots.flatMap printings ++ [p]) := by
  unfold put
  cases p.joinKey with
  | some key => exact put_face_printings key p slots
  | none => simp [printings]

theorem of_printings_perm (ps : List Printing) : ((ofPrintings ps).flatMap printings).Perm ps := by
  induction ps using List.reverseRecOn with
  | nil => exact .refl _
  | append_singleton ps p ih =>
    rw [ofPrintings, List.foldl_append]
    exact (put_printings p (ofPrintings ps)).trans (ih.append_right [p])

end Slot

namespace Printing

/-- The same printings by side. Those of one side are in the order in which they came. -/
structure Sorted (ps sides : List Printing) : Prop where
  same : sides.Perm ps
  ascending : sides.Pairwise fun p q => p.order ≤ q.order
  stable : ∀ n, sides.filter (fun p => p.order = n) = ps.filter fun p => p.order = n

theorem in_order_sorted (ps : List Printing) : Sorted ps (inOrder ps) := by
  have same : (inOrder ps).Perm ps := List.mergeSort_perm ps _
  have trans (p q r : Printing) : decide (p.order ≤ q.order) → decide (q.order ≤ r.order) →
      decide (p.order ≤ r.order) := by simpa using Nat.le_trans
  have total (p q : Printing) : decide (p.order ≤ q.order) || decide (q.order ≤ p.order) := by
    simpa using Nat.le_total p.order q.order
  refine ⟨same, (List.pairwise_mergeSort trans total ps).imp of_decide_eq_true, fun n => ?_⟩
  have side {p : Printing} (member : p ∈ ps.filter fun p => p.order = n) : p.order = n :=
    of_decide_eq_true (List.mem_filter.1 member).2
  have level : (ps.filter fun p => p.order = n).Pairwise fun p q => decide (p.order ≤ q.order) :=
    List.pairwise_of_forall_mem_list fun p here q there =>
      decide_eq_true (Nat.le_of_eq ((side here).trans (side there).symm))
  have kept := (List.sublist_mergeSort trans total level List.filter_sublist).filter fun p => p.order = n
  rw [List.filter_filter] at kept
  simp only [Bool.and_self] at kept
  exact (kept.eq_of_length (same.filter _).length_eq.symm).symm

def Hindered (ps : List Printing) : FaceProblem → Prop
  | .alone => ps.length < 2
  | .layoutsDiffer => 2 ≤ ps.length ∧ ∃ p ∈ ps, ∃ q ∈ ps, p.layout ≠ q.layout
  | .tooMany => 2 < ps.length ∧ ∃ layout, manyFaces layout = false ∧ ∀ p ∈ ps, p.layout = layout

theorem hindered_perm {ps qs : List Printing} (same : ps.Perm qs) (problem : FaceProblem) :
    Hindered ps problem ↔ Hindered qs problem := by
  cases problem <;> simp only [Hindered, same.length_eq, same.mem_iff]

theorem face_problem_iff (first : Printing) (others : List Printing) (problem : FaceProblem) :
    faceProblem? first others = some problem ↔ Hindered (first :: others) problem := by
  cases others with
  | nil => cases problem <;> simp [faceProblem?, Hindered]
  | cons second rest =>
    by_cases differ : ∃ p ∈ second :: rest, p.layout ≠ first.layout
    · have told : faceProblem? first (second :: rest) = some .layoutsDiffer := by
        rw [faceProblem?, if_neg (by simp), if_pos (by simpa using differ)]
      obtain ⟨p, member, other⟩ := differ
      have inside : p ∈ first :: second :: rest := List.mem_cons_of_mem first member
      rw [told]
      cases problem with
      | alone => simp [Hindered]
      | layoutsDiffer => exact iff_of_true rfl ⟨by simp, p, inside, first, List.mem_cons_self, other⟩
      | tooMany =>
        refine iff_of_false (by decide) fun ⟨_, layout, _, alike⟩ => other ?_
        rw [alike p inside, alike first List.mem_cons_self]
    · have alike : ∀ p ∈ first :: second :: rest, p.layout = first.layout := by
        simpa using differ
      rw [faceProblem?, if_neg (by simp), if_neg (by simpa using differ)]
      cases problem with
      | alone => simp [Hindered]
      | layoutsDiffer =>
        refine iff_of_false (by simp) fun ⟨_, p, here, q, there, other⟩ => other ?_
        rw [alike p here, alike q there]
      | tooMany =>
        have many_faced : Hindered (first :: second :: rest) .tooMany ↔
            (second :: rest).length > 1 ∧ manyFaces first.layout = false :=
          ⟨fun ⟨many, layout, few, all⟩ =>
              ⟨Nat.lt_of_succ_lt_succ many, all first List.mem_cons_self ▸ few⟩,
            fun ⟨many, few⟩ => ⟨Nat.succ_lt_succ many, first.layout, few, alike⟩⟩
        rw [many_faced]
        simp

end Printing

/-- What the printings that came give where one of them opens a slot: a card of it alone, one card of all
    that have its key, or a card of each of those and one report. -/
inductive Printing.Yields (ps : List Printing) (p : Printing) : List Card → List Split → Prop
  | alone {c : Card} (keyless : p.joinKey = none) (face : c.faces = [p.face.completed]) : Yields ps p [c] []
  | joined {c : Card} {key : String} {sides : List Printing} (joins : p.joinKey = some key)
      (whole : ∀ problem, ¬ Hindered (keyed key ps) problem) (sorted : Sorted (keyed key ps) sides)
      (several : 2 ≤ c.faces.length) (faces : c.faces = sides.map fun q => q.face.completed)
      (id : c.id = idOfKey key) : Yields ps p [c] []
  | split {cs : List Card} {key : String} {sides : List Printing} {problem : FaceProblem} {first : Printing}
      (joins : p.joinKey = some key) (hindered : Hindered (keyed key ps) problem)
      (sorted : Sorted (keyed key ps) sides) (front : sides.head? = some first)
      (faces : List.Forall₂ (fun c q => c.faces = [q.face.completed] ∧ c.layout = .normal) cs sides) :
      Yields ps p cs [⟨first.face.name, first.expansion, problem⟩]

namespace Printing

theorem split_from_faces (side : Nat) (ps : List Printing) :
    List.Forall₂ (fun c q => c.faces = [q.face.completed] ∧ c.layout = .normal) (splitFrom side ps) ps := by
  induction ps generalizing side with
  | nil => exact .nil
  | cons p rest ih => exact .cons ⟨(joined_parts _ .normal p []).2.1, rfl⟩ (ih (side + 1))

theorem opened_yields {ps : List Printing} {p : Printing} (member : p ∈ ps) :
    Yields ps p (Slot.opened ps p).cards.1 (Slot.opened ps p).cards.2 := by
  cases joins : p.joinKey with
  | none =>
    rw [Slot.opened_single ps joins]
    exact .alone joins (joined_parts _ p.layout p []).2.1
  | some key =>
    have sorted := in_order_sorted (keyed key ps)
    rw [Slot.opened_faces ps joins, Slot.cards]
    cases order : inOrder (keyed key ps) with
    | nil =>
      have inside : p ∈ inOrder (keyed key ps) :=
        mem_in_order.2 (List.mem_filter.2 ⟨member, decide_eq_true joins⟩)
      rw [order] at inside
      cases inside
    | cons first others =>
      rw [order] at sorted
      dsimp only
      cases problem : faceProblem? first others with
      | none =>
        obtain ⟨id, parts, _⟩ := joined_parts (idOfKey key) first.layout first others
        have whole : ∀ problem, ¬ Hindered (keyed key ps) problem := by
          intro bad hindered
          have told := (face_problem_iff first others bad).2 ((hindered_perm sorted.same bad).2 hindered)
          rw [problem] at told
          cases told
        have several : 2 ≤ (first :: others).length := by
          rw [sorted.same.length_eq]
          exact Nat.le_of_not_lt (whole .alone)
        exact .joined joins whole sorted (by rw [parts, List.length_map]; exact several) parts id
      | some bad =>
        have hindered := (hindered_perm sorted.same bad).1 ((face_problem_iff first others bad).1 problem)
        exact .split joins hindered sorted rfl (split_from_faces 0 (first :: others))

end Printing

/-- A card of these printings. If they are several, they have one key. -/
structure Card.PutTogether (c : Card) (part : List Printing) : Prop where
  faces : c.faces = part.map fun p => p.face.completed
  key : 2 ≤ part.length → ∃ key, (∀ p ∈ part, p.joinKey = some key) ∧ c.id = Printing.idOfKey key

namespace Printing

theorem put_together_single {c : Card} {p : Printing} (face : c.faces = [p.face.completed]) :
    c.PutTogether [p] := ⟨face, fun several => absurd several (Nat.not_succ_le_self 1)⟩

theorem Yields.parts {ps : List Printing} {p : Printing} {cs : List Card} {told : List Split}
    (yields : Yields ps p cs told) :
    ∃ parts : List (List Printing), parts.flatten.Perm (Slot.opened ps p).printings ∧
      List.Forall₂ Card.PutTogether cs parts := by
  cases yields with
  | alone keyless face =>
    rw [Slot.opened_single ps keyless]
    exact ⟨[[p]], .refl _, .cons (put_together_single face) .nil⟩
  | joined joins whole sorted several faces id =>
    rw [Slot.opened_faces ps joins]
    refine ⟨[_], by simpa [Slot.printings] using sorted.same, .cons ⟨faces, fun _ => ⟨_, fun q member => ?_, id⟩⟩ .nil⟩
    exact of_decide_eq_true (List.mem_filter.1 (sorted.same.subset member)).2
  | @split _ key sides _ _ joins hindered sorted front faces =>
    rw [Slot.opened_faces ps joins]
    have flat : (sides.map fun q => [q]).flatten = sides := by
      rw [← List.flatMap_def, List.flatMap_singleton']
    refine ⟨sides.map fun q => [q], by rw [flat]; exact sorted.same, List.forall₂_map_right_iff.2 ?_⟩
    exact faces.imp fun c q single => put_together_single single.1

end Printing

theorem put_together_faces {cs : List Card} {parts : List (List Printing)}
    (together : List.Forall₂ Card.PutTogether cs parts) :
    cs.flatMap Card.faces = parts.flatten.map fun p => p.face.completed := by
  induction together with
  | nil => rfl
  | cons here _ ih => rw [List.flatMap_cons, List.flatten_cons, List.map_append, here.faces, ih]

theorem assemble_parts (ps : List Printing) :
    ∃ parts : List (List Printing), parts.flatten.Perm ps ∧
      List.Forall₂ Card.PutTogether (assemble ps).1 parts := by
  have run (firsts : List Printing) (inside : firsts ⊆ ps) :
      ∃ parts : List (List Printing), parts.flatten.Perm ((firsts.map (Slot.opened ps)).flatMap Slot.printings) ∧
        List.Forall₂ Card.PutTogether ((firsts.map (Slot.opened ps)).flatMap fun slot => slot.cards.1) parts := by
    induction firsts with
    | nil => exact ⟨[], .refl _, .nil⟩
    | cons p rest ih =>
      obtain ⟨member, later⟩ := List.cons_subset.1 inside
      obtain ⟨front, whole, made⟩ := (Printing.opened_yields member).parts
      obtain ⟨back, whole', made'⟩ := ih later
      refine ⟨front ++ back, ?_, List.rel_append made made'⟩
      rw [List.flatten_append]
      exact whole.append whole'
  obtain ⟨parts, whole, made⟩ := run (Printing.openers ps) fun _ => Printing.mem_of_openers
  rw [← Slot.of_printings_opened] at whole made
  refine ⟨parts, whole.trans (Slot.of_printings_perm ps), ?_⟩
  rw [assemble, List.flatMap_map]
  exact made

/-- The cards put together from printings have the faces of those, each as often as it came, and stand in the
    order of the printings that open a slot. Printings of one key are the faces of one card, in the order of their
    sides, or else a card each with one report of all; a printing without a key is a card of its own. A rack with
    a place for each key has the same slots, and its places lead to the slots of their keys. -/
theorem faces_conserved (ps : List Printing) :
    ((assemble ps).1.flatMap Card.faces).Perm (ps.map fun p => p.face.completed) ∧
      (∃ yields : List (List Card × List Split),
        assemble ps = (yields.flatMap Prod.fst, yields.flatMap Prod.snd) ∧
        List.Forall₂ (fun p made => Printing.Yields ps p made.1 made.2) (Printing.openers ps) yields) ∧
      (Rack.ofPrintings ps).slots = Slot.ofPrintings ps ∧
      ∀ key i, (Rack.ofPrintings ps).places.get? key = some i →
        ∃ qs, (Rack.ofPrintings ps).slots[i]? = some (.faces key qs) := by
  have made : assemble ps = (((Printing.openers ps).map fun p => (Slot.opened ps p).cards).flatMap Prod.fst,
      ((Printing.openers ps).map fun p => (Slot.opened ps p).cards).flatMap Prod.snd) := by
    rw [assemble, Slot.of_printings_opened, List.map_map]
    rfl
  have yields : ∀ p ∈ Printing.openers ps,
      Printing.Yields ps p (Slot.opened ps p).cards.1 (Slot.opened ps p).cards.2 :=
    fun p member => Printing.opened_yields (Printing.mem_of_openers member)
  have kept := Rack.of_printings_kept ps
  refine ⟨?_, ⟨_, made, ?_⟩, kept.slots, fun key i held => Rack.kept_faces kept held⟩
  · obtain ⟨parts, whole, together⟩ := assemble_parts ps
    rw [put_together_faces together]
    exact whole.map _
  · rw [List.forall₂_map_right_iff, List.forall₂_same]
    exact yields

end Deckwright
