set_option autoImplicit false

/- Finite sets and finite maps kept as lists in increasing order. Equal sets are
   equal lists, so a set read back from its own list is the same value, and the
   order in which elements were put in leaves no trace. -/
namespace Deckwright

namespace Ordered

variable {α β : Type} [Ord α]

def Increasing (xs : List α) : Prop :=
  xs.Pairwise fun a b => compare a b = .lt

def insert (a : α) : List α → List α
  | [] => [a]
  | b :: rest =>
    match compare a b with
    | .lt => a :: b :: rest
    | .eq => b :: rest
    | .gt => b :: insert a rest

def erase (a : α) (xs : List α) : List α :=
  xs.filter fun b => compare a b != .eq

def put (k : α) (v : β) : List (α × β) → List (α × β)
  | [] => [(k, v)]
  | (j, w) :: rest =>
    match compare k j with
    | .lt => (k, v) :: (j, w) :: rest
    | .eq => (k, v) :: rest
    | .gt => (j, w) :: put k v rest

def find? (k : α) : List (α × β) → Option β
  | [] => none
  | (j, w) :: rest => if compare k j = .eq then some w else find? k rest

theorem erase_increasing {a : α} {xs : List α} (h : Increasing xs) : Increasing (erase a xs) :=
  h.filter _

theorem filter_keys_increasing {es : List (α × β)} (p : α × β → Bool)
    (h : Increasing (es.map Prod.fst)) : Increasing ((es.filter p).map Prod.fst) :=
  h.sublist (List.filter_sublist.map Prod.fst)

variable [Std.LawfulEqOrd α]

theorem mem_insert {a x : α} {xs : List α} : x ∈ insert a xs ↔ x = a ∨ x ∈ xs := by
  induction xs with
  | nil => simp [insert]
  | cons b rest ih =>
    unfold insert
    split
    · simp
    · rename_i same
      have := Std.LawfulEqCmp.eq_of_compare same
      subst this
      simp
    · simp only [List.mem_cons, ih]
      constructor
      · rintro (h | h | h) <;> simp [h]
      · rintro (h | h | h) <;> simp [h]

theorem mem_keys_put {k x : α} {v : β} {es : List (α × β)} :
    x ∈ (put k v es).map Prod.fst ↔ x = k ∨ x ∈ es.map Prod.fst := by
  induction es with
  | nil => simp [put]
  | cons e rest ih =>
    obtain ⟨j, w⟩ := e
    unfold put
    split
    · simp
    · rename_i same
      have := Std.LawfulEqCmp.eq_of_compare same
      subst this
      simp
    · simp only [List.map_cons, List.mem_cons, ih]
      constructor
      · rintro (h | h | h) <;> simp [h]
      · rintro (h | h | h) <;> simp [h]

variable [Std.TransOrd α]

theorem insert_increasing {a : α} {xs : List α} (h : Increasing xs) : Increasing (insert a xs) := by
  induction xs with
  | nil => simp [insert, Increasing]
  | cons b rest ih =>
    have below := (List.pairwise_cons.1 h).1
    have inner := (List.pairwise_cons.1 h).2
    unfold insert
    split
    · rename_i less
      refine List.pairwise_cons.2 ⟨?_, h⟩
      intro c hc
      rcases List.mem_cons.1 hc with rfl | hc
      · exact less
      · exact Std.TransCmp.lt_trans less (below c hc)
    · exact h
    · rename_i more
      refine List.pairwise_cons.2 ⟨?_, ih inner⟩
      intro c hc
      rcases mem_insert.1 hc with rfl | hc
      · exact Std.OrientedCmp.gt_iff_lt.1 more
      · exact below c hc

theorem put_increasing {k : α} {v : β} {es : List (α × β)} (h : Increasing (es.map Prod.fst)) :
    Increasing ((put k v es).map Prod.fst) := by
  induction es with
  | nil => simp [put, Increasing]
  | cons e rest ih =>
    obtain ⟨j, w⟩ := e
    have below := (List.pairwise_cons.1 h).1
    have inner := (List.pairwise_cons.1 h).2
    unfold put
    split
    · rename_i less
      refine List.pairwise_cons.2 ⟨?_, h⟩
      intro c hc
      rcases List.mem_cons.1 hc with rfl | hc
      · exact less
      · exact Std.TransCmp.lt_trans less (below c hc)
    · rename_i same
      have := Std.LawfulEqCmp.eq_of_compare same
      subst this
      exact h
    · rename_i more
      refine List.pairwise_cons.2 ⟨?_, ih inner⟩
      intro c hc
      rcases mem_keys_put.1 hc with rfl | hc
      · exact Std.OrientedCmp.gt_iff_lt.1 more
      · exact below c hc

end Ordered

structure OrderedSet (α : Type) [Ord α] where
  toList : List α
  increasing : Ordered.Increasing toList
deriving DecidableEq

namespace OrderedSet

variable {α : Type} [Ord α]

def empty : OrderedSet α := ⟨[], List.Pairwise.nil⟩

instance : EmptyCollection (OrderedSet α) := ⟨empty⟩
instance : Inhabited (OrderedSet α) := ⟨empty⟩

def isEmpty (s : OrderedSet α) : Bool := s.toList.isEmpty

def size (s : OrderedSet α) : Nat := s.toList.length

def contains (s : OrderedSet α) (a : α) : Bool := s.toList.any fun b => compare a b == .eq

variable [Std.TransOrd α] [Std.LawfulEqOrd α]

def insert (s : OrderedSet α) (a : α) : OrderedSet α :=
  ⟨Ordered.insert a s.toList, Ordered.insert_increasing s.increasing⟩

def erase (s : OrderedSet α) (a : α) : OrderedSet α :=
  ⟨Ordered.erase a s.toList, Ordered.erase_increasing s.increasing⟩

def insertMany (s : OrderedSet α) (xs : List α) : OrderedSet α :=
  xs.foldl insert s

def ofList (xs : List α) : OrderedSet α := insertMany empty xs

theorem mem_insert {s : OrderedSet α} {a x : α} : x ∈ (s.insert a).toList ↔ x = a ∨ x ∈ s.toList :=
  Ordered.mem_insert

theorem mem_insertMany {s : OrderedSet α} {xs : List α} {x : α} :
    x ∈ (s.insertMany xs).toList ↔ x ∈ s.toList ∨ x ∈ xs := by
  induction xs generalizing s with
  | nil => simp [insertMany]
  | cons a rest ih =>
    have step : s.insertMany (a :: rest) = (s.insert a).insertMany rest := rfl
    rw [step, ih, mem_insert, List.mem_cons]
    constructor
    · rintro ((h | h) | h) <;> simp [h]
    · rintro (h | h | h) <;> simp [h]

theorem mem_ofList {xs : List α} {x : α} : x ∈ (ofList xs).toList ↔ x ∈ xs := by
  simp [ofList, mem_insertMany, empty]

end OrderedSet

structure OrderedMap (α β : Type) [Ord α] where
  entries : List (α × β)
  increasing : Ordered.Increasing (entries.map Prod.fst)
deriving DecidableEq

namespace OrderedMap

variable {α β : Type} [Ord α]

def empty : OrderedMap α β := ⟨[], List.Pairwise.nil⟩

instance : EmptyCollection (OrderedMap α β) := ⟨empty⟩
instance : Inhabited (OrderedMap α β) := ⟨empty⟩

def get? (m : OrderedMap α β) (k : α) : Option β := Ordered.find? k m.entries

def contains (m : OrderedMap α β) (k : α) : Bool := (m.get? k).isSome

def keys (m : OrderedMap α β) : List α := m.entries.map Prod.fst

variable [Std.TransOrd α] [Std.LawfulEqOrd α]

def insert (m : OrderedMap α β) (k : α) (v : β) : OrderedMap α β :=
  ⟨Ordered.put k v m.entries, Ordered.put_increasing m.increasing⟩

def erase (m : OrderedMap α β) (k : α) : OrderedMap α β :=
  ⟨m.entries.filter fun e => compare k e.1 != .eq, Ordered.filter_keys_increasing _ m.increasing⟩

def ofList (es : List (α × β)) : OrderedMap α β :=
  es.foldl (fun m e => m.insert e.1 e.2) empty

def mapValues (m : OrderedMap α β) (f : α → β → β) : OrderedMap α β where
  entries := m.entries.map fun e => (e.1, f e.1 e.2)
  increasing := by
    have same : (m.entries.map fun e => (e.1, f e.1 e.2)).map Prod.fst = m.entries.map Prod.fst := by
      simp [List.map_map, Function.comp_def]
    rw [same]
    exact m.increasing

end OrderedMap

end Deckwright
