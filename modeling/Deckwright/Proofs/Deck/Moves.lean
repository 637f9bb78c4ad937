import Deckwright.Deck.Basic
import Deckwright.Proofs.Ordered
set_option autoImplicit false

/- What can be asked of a deck, and the few moves that every answer is made of. What holds
   of all decks is shown of the moves; only this file looks at the operations themselves. -/
namespace Deckwright

namespace Category

def Apart (c : Category) : Prop := ∀ id ∈ c.whitelist.toList, id ∉ c.blacklist.toList

theorem of_spec_to_spec {c : Category} (id : CategoryId) (apart : c.Apart) :
    ofSpec id c.toSpec = { c with id := id, members := [] } := by
  have white : c.whitelist.toList.filter (fun id => !c.blacklist.contains id) = c.whitelist.toList := by
    refine List.filter_eq_self.2 fun id member => ?_
    have out : ¬ c.blacklist.contains id = true := fun held => apart id member (OrderedSet.contains_iff.1 held)
    simpa using out
  simp only [ofSpec, toSpec, OrderedSet.of_list_to_list, white]

end Category

namespace Deck

inductive Change where
  | add (card : Card) (n : UInt32)
  | addAll (cards : List Card) (n : UInt32)
  | remove (id : CardId) (n : UInt32)
  | setCount (card : Card) (n : UInt32)
  | setCountAt (i : Nat) (n : UInt32)
  | clear
  | addCategory (spec : CategorySpec)
  | removeCategory (name : String)
  | forceIn (name : String) (card : Card)
  | keepOut (name : String) (card : Card)
  | editCategory (name newName : String) (filter : Filter)
  | renameCategory (name newName : String)
  | setSwatch (name : String) (swatch : Swatch)

def settled {α : Type} (d : Deck) : Except DeckFault (Deck × α) → Deck
  | .ok (changed, _) => changed
  | .error _ => d

def after (d : Deck) : Change → Deck
  | .add card n => (d.add card n).1
  | .addAll cards n => (d.addAll cards n).1
  | .remove id n => (d.remove id n).1
  | .setCount card n => (d.setCount card n).1
  | .setCountAt i n => (d.setCountAt i n).1
  | .clear => d.clear
  | .addCategory spec => d.settled (d.addCategory spec)
  | .removeCategory name => (d.removeCategory name).1
  | .forceIn name card => d.settled (d.forceIn name card)
  | .keepOut name card => d.settled (d.keepOut name card)
  | .editCategory name newName filter => d.settled (d.editCategory name newName filter)
  | .renameCategory name newName => d.settled (d.renameCategory name newName)
  | .setSwatch name swatch => d.settled (d.setSwatch name swatch)

def founded (d : Deck) : Change → Nat
  | .addCategory spec => if d.containsCategory spec.name then 0 else 1
  | _ => 0

/-- The decks that any changes lead to, with the number of categories ever made. -/
inductive Reached : Nat → Deck → Prop where
  | start : Reached 0 empty
  | change {n : Nat} {d : Deck} (c : Change) (before : Reached n d) : Reached (n + d.founded c) (d.after c)

def changed (d : Deck) (front back : List Category) (c : Category) : Deck :=
  { d with
    categories := front ++ { c with members := membersOf c d.entries } :: back
    memberships := d.entries.foldl (noteIn c) d.memberships }

inductive Move (d : Deck) : Nat → Deck → Prop where
  | recount (i : Nat) (n : UInt32) (positive : n ≠ 0) : Move d 0 (d.setCountOf i n)
  | enter (card : Card) (n : UInt32) (positive : n ≠ 0) (absent : d.position? card.id = none) :
    Move d 0 (d.append card n)
  | leave (i : Nat) (id : CardId) (present : d.position? id = some i) : Move d 0 (d.dropAt i id)
  | clear : Move d 0 d.clear
  | found (c : Category) (fresh : d.containsCategory c.name = false) (numbered : c.id = d.nextCategory)
    (apart : c.Apart) : Move d 1 { d.changed d.categories [] c with nextCategory := d.nextCategory + 1 }
  | close (front back : List Category) (c : Category) (held : d.categories = front ++ c :: back) :
    Move d 0 { d with
      categories := front ++ back
      memberships := d.memberships.mapValues fun _ row => row.erase c.id }
  | alter (front back : List Category) (c new : Category) (held : d.categories = front ++ c :: back)
    (sameId : new.id = c.id) (apart : c.Apart → new.Apart)
    (name : new.name = c.name ∨ d.containsCategory new.name = false) : Move d 0 (d.changed front back new)
  | paint (front back : List Category) (c : Category) (swatch : Swatch)
    (held : d.categories = front ++ c :: back) :
    Move d 0 { d with categories := front ++ { c with swatch := swatch } :: back }

inductive Moves (d : Deck) : Nat → Deck → Prop where
  | stay : Moves d 0 d
  | next {m n : Nat} {e f : Deck} (before : Moves d m e) (last : Move e n f) : Moves d (m + n) f

theorem Move.moves {d e : Deck} {n : Nat} (move : Move d n e) : Moves d n e := by
  simpa using Moves.next .stay move

theorem Moves.trans {d e f : Deck} {m n : Nat} (first : Moves d m e) (second : Moves e n f) :
    Moves d (m + n) f := by
  induction second with
  | stay => exact first
  | next _ last ih => simpa [Nat.add_assoc] using Moves.next ih last

theorem sum_exact {m n count : UInt32} (counted : sum? m n = some count) : count.toNat = m.toNat + n.toNat := by
  unfold sum? at counted
  split at counted
  · rename_i fits
    obtain rfl := Option.some.inj counted
    rw [UInt32.toNat_add]
    exact Nat.mod_eq_of_lt fits
  · cases counted

theorem count_positive {n : UInt32} (positive : n ≠ 0) : 0 < n.toNat :=
  Nat.pos_of_ne_zero fun zero => positive (UInt32.toNat_inj.mp zero)

theorem sum_nonzero {m n count : UInt32} (positive : n ≠ 0) (counted : sum? m n = some count) :
    count ≠ 0 := by
  rintro rfl
  have exact := sum_exact counted
  have some := count_positive positive
  rw [UInt32.toNat_zero] at exact
  omega

theorem rest_exact {m n : UInt32} (more : ¬ m ≤ n) : n.toNat < m.toNat ∧ (m - n).toNat = m.toNat - n.toNat := by
  have most : n.toNat < m.toNat := by
    simpa only [UInt32.le_iff_toNat_le, Nat.not_le] using more
  exact ⟨most, UInt32.toNat_sub_of_le _ _ (UInt32.le_iff_toNat_le.mpr (Nat.le_of_lt most))⟩

theorem add_absent {d : Deck} {card : Card} {n : UInt32} (positive : n ≠ 0) (absent : d.position? card.id = none) :
    d.add card n = (d.append card n, true) := by
  rw [add, if_neg positive, absent]

theorem reached_append {m : Nat} {d : Deck} {card : Card} {n : UInt32} (reached : Reached m d) (positive : n ≠ 0)
    (absent : d.position? card.id = none) : Reached m (d.append card n) := by
  have changed := Reached.change (.add card n) reached
  rwa [after, add_absent positive absent] at changed

theorem absent_append {d : Deck} {e : Entry} {rest : List Entry} (fresh : e.id ∉ rest.map Entry.id)
    (absent : ∀ other ∈ e :: rest, d.position? other.id = none) :
    ∀ other ∈ rest, (d.append e.card e.count).position? other.id = none := by
  intro other member
  have away : other.id ≠ e.card.id := fun same => fresh (List.mem_map.2 ⟨other, member, same⟩)
  have before := absent other (List.mem_cons_of_mem e member)
  unfold append position? at *
  rw [OrderedMap.get_insert, if_neg away]
  exact before

theorem count_placed {d : Deck} {id : CardId} {i : Nat} (present : d.position? id = some i) :
    d.count id = d.countAt i := by
  rw [count, entry?, present]
  rfl

theorem count_absent {d : Deck} {id : CardId} (absent : d.position? id = none) : d.count id = 0 := by
  rw [count, entry?, absent]
  rfl

theorem add_cases (d : Deck) (card : Card) (n : UInt32) :
    (d.add card n = (d, false) ∧ (n = 0 ∨ UInt32.size ≤ (d.count card.id).toNat + n.toNat)) ∨
      (∃ i count, d.position? card.id = some i ∧ n ≠ 0 ∧ sum? (d.countAt i) n = some count ∧
        d.add card n = (d.setCountOf i count, true)) ∨
      (d.position? card.id = none ∧ n ≠ 0 ∧ d.add card n = (d.append card n, true)) := by
  by_cases none : n = 0
  · exact .inl ⟨by rw [add, if_pos none], .inl none⟩
  · cases present : d.position? card.id with
    | none => exact .inr (.inr ⟨rfl, none, add_absent none present⟩)
    | some i =>
      cases counted : sum? (d.countAt i) n with
      | none =>
        refine .inl ⟨by rw [add, if_neg none, present]; simp only [counted], .inr ?_⟩
        rw [count_placed present]
        exact Nat.le_of_not_lt fun fits => by simp [sum?, fits] at counted
      | some count =>
        exact .inr (.inl ⟨i, count, rfl, none, counted, by rw [add, if_neg none, present]; simp only [counted]⟩)

theorem add_taken (d : Deck) (card : Card) (n : UInt32) :
    (d.add card n).2 = true ↔ 0 < n.toNat ∧ (d.count card.id).toNat + n.toNat < UInt32.size := by
  rcases add_cases d card n with ⟨idle, reason⟩ | ⟨i, count, present, positive, counted, more⟩ |
    ⟨absent, positive, entered⟩
  · rw [idle]
    refine iff_of_false Bool.false_ne_true fun ⟨asked, fits⟩ => ?_
    rcases reason with none | full
    · rw [none, UInt32.toNat_zero] at asked
      omega
    · omega
  · have exact := sum_exact counted
    have bound := count.toNat_lt_size
    rw [more, count_placed present]
    exact iff_of_true rfl ⟨count_positive positive, by omega⟩
  · have bound := n.toNat_lt_size
    rw [entered, count_absent absent, UInt32.toNat_zero, Nat.zero_add]
    exact iff_of_true rfl ⟨count_positive positive, bound⟩

theorem add_moves (d : Deck) (card : Card) (n : UInt32) : Moves d 0 (d.add card n).1 := by
  rcases add_cases d card n with ⟨idle, _⟩ | ⟨i, count, _, positive, counted, more⟩ | ⟨absent, positive, entered⟩
  · rw [idle]
    exact .stay
  · rw [more]
    exact (Move.recount i count (sum_nonzero positive counted)).moves
  · rw [entered]
    exact (Move.enter card n positive absent).moves

theorem add_all_cons (d : Deck) (card : Card) (cards : List Card) (n : UInt32) :
    d.addAll (card :: cards) n =
      (((d.add card n).1.addAll cards n).1, (d.add card n).2 || ((d.add card n).1.addAll cards n).2) := by
  have later (rest : List Card) (e : Deck) (told : Bool) :
      rest.foldl (fun (made : Deck × Bool) card => ((made.1.add card n).1, made.2 || (made.1.add card n).2))
        (e, told) = ((e.addAll rest n).1, told || (e.addAll rest n).2) := by
    induction rest generalizing e told with
    | nil => simp [addAll]
    | cons other rest ih =>
      have first : e.addAll (other :: rest) n = _ := ih (e.add other n).1 (e.add other n).2
      rw [List.foldl_cons, ih, first, Bool.or_assoc]
  exact later cards (d.add card n).1 (d.add card n).2

theorem add_all_moves (d : Deck) (cards : List Card) (n : UInt32) : Moves d 0 (d.addAll cards n).1 := by
  induction cards generalizing d with
  | nil => exact .stay
  | cons card rest ih =>
    rw [add_all_cons]
    exact (add_moves d card n).trans (ih (d.add card n).1)

theorem remove_cases (d : Deck) (id : CardId) (n : UInt32) :
    (d.remove id n = (d, 0) ∧ (n = 0 ∨ d.position? id = none)) ∨
      (∃ i, d.position? id = some i ∧ n ≠ 0 ∧ d.countAt i ≤ n ∧ d.remove id n = (d.dropAt i id, d.countAt i)) ∨
      (∃ i, d.position? id = some i ∧ n ≠ 0 ∧ ¬ d.countAt i ≤ n ∧
        d.remove id n = (d.setCountOf i (d.countAt i - n), n)) := by
  by_cases none : n = 0
  · exact .inl ⟨by rw [remove, if_pos none], .inl none⟩
  · cases present : d.position? id with
    | none => exact .inl ⟨by rw [remove, if_neg none, present], .inr rfl⟩
    | some i =>
      by_cases whole : d.countAt i ≤ n
      · exact .inr (.inl ⟨i, rfl, none, whole, by rw [remove, if_neg none, present]; simp only [if_pos whole]⟩)
      · exact .inr (.inr ⟨i, rfl, none, whole, by rw [remove, if_neg none, present]; simp only [if_neg whole]⟩)

theorem removed_least (d : Deck) (id : CardId) (n : UInt32) :
    (d.remove id n).2.toNat = min n.toNat (d.count id).toNat := by
  rcases remove_cases d id n with ⟨idle, reason⟩ | ⟨i, present, _, whole, left⟩ | ⟨i, present, _, more, fewer⟩
  · rw [idle]
    rcases reason with none | absent
    · rw [none, UInt32.toNat_zero, Nat.zero_min]
    · rw [count_absent absent, UInt32.toNat_zero, Nat.min_zero]
  · rw [left, count_placed present]
    exact (Nat.min_eq_right (UInt32.le_iff_toNat_le.1 whole)).symm
  · rw [fewer, count_placed present]
    exact (Nat.min_eq_left (Nat.le_of_lt (rest_exact more).1)).symm

theorem remove_moves (d : Deck) (id : CardId) (n : UInt32) : Moves d 0 (d.remove id n).1 := by
  rcases remove_cases d id n with ⟨idle, _⟩ | ⟨i, present, _, _, left⟩ | ⟨i, _, _, more, fewer⟩
  · rw [idle]
    exact .stay
  · rw [left]
    exact (Move.leave i id present).moves
  · rw [fewer]
    obtain ⟨most, rest⟩ := rest_exact more
    refine (Move.recount i _ fun zero => ?_).moves
    rw [zero, UInt32.toNat_zero] at rest
    omega

theorem remove_whole {d : Deck} {id : CardId} {i : Nat} (present : d.position? id = some i) (counted : d.countAt i ≠ 0) :
    d.remove id (d.countAt i) = (d.dropAt i id, d.countAt i) := by
  rw [remove, if_neg counted, present]
  exact if_pos UInt32.le_rfl

theorem set_count_cases (d : Deck) (card : Card) (n : UInt32) :
    (d.position? card.id = none ∧ d.setCount card n = d.add card n) ∨
      (∃ i, d.position? card.id = some i ∧ d.countAt i = n ∧ d.setCount card n = (d, false)) ∨
      (∃ i, d.position? card.id = some i ∧ d.countAt i ≠ n ∧ n = 0 ∧
        d.setCount card n = (d.dropAt i card.id, true)) ∨
      (∃ i, d.position? card.id = some i ∧ d.countAt i ≠ n ∧ n ≠ 0 ∧
        d.setCount card n = (d.setCountOf i n, true)) := by
  cases present : d.position? card.id with
  | none => exact .inl ⟨rfl, by rw [setCount, present]⟩
  | some i =>
    refine .inr ?_
    rw [setCount, present]
    dsimp only
    by_cases same : d.countAt i = n
    · exact .inl ⟨i, rfl, same, if_pos same⟩
    · by_cases none : n = 0
      · have counted : d.countAt i ≠ 0 := fun zero => same (zero.trans none.symm)
        exact .inr (.inl ⟨i, rfl, same, none, by rw [if_neg same, if_pos none, remove_whole present counted]⟩)
      · exact .inr (.inr ⟨i, rfl, same, none, by rw [if_neg same, if_neg none]⟩)

theorem set_count_moves (d : Deck) (card : Card) (n : UInt32) : Moves d 0 (d.setCount card n).1 := by
  rcases set_count_cases d card n with ⟨_, added⟩ | ⟨_, _, _, idle⟩ | ⟨i, present, _, _, left⟩ | ⟨i, _, _, positive, put⟩
  · rw [added]
    exact add_moves d card n
  · rw [idle]
    exact .stay
  · rw [left]
    exact (Move.leave i card.id present).moves
  · rw [put]
    exact (Move.recount i n positive).moves

theorem set_count_at_moves (d : Deck) (i : Nat) (n : UInt32) : Moves d 0 (d.setCountAt i n).1 := by
  unfold setCountAt
  split
  · exact set_count_moves d _ n
  · exact .stay

theorem category_split {d : Deck} {name : String} {c : Category} (held : d.category? name = some c) :
    ∃ front back, d.categories = front ++ c :: back ∧ c.name = name ∧
      d.categoryIndex? name = some front.length ∧
      d.categories.eraseP (fun other => other.name = name) = front ++ back := by
  obtain ⟨hit, front, back, split, others⟩ := List.find?_eq_some_iff_append.1 held
  have named : c.name = name := by simpa using hit
  have misses : ∀ other ∈ front, ¬ other.name = name := fun other member => by simpa using others other member
  refine ⟨front, back, split, named, ?_, ?_⟩
  · unfold categoryIndex?
    rw [split, List.findIdx?_append]
    have none : front.findIdx? (fun other => other.name = name) = none := by
      simpa [List.findIdx?_eq_none_iff] using misses
    simp [none, List.findIdx?_cons, named]
  · rw [split, List.eraseP_append_right _ (by simpa using misses)]
    simp [named]

theorem contains_category_false {d : Deck} {name : String} :
    d.containsCategory name = false ↔ ∀ c ∈ d.categories, c.name ≠ name := by
  simp [containsCategory]

theorem put_category_split (d : Deck) (front back : List Category) (c new : Category)
    (held : d.categories = front ++ c :: back) : d.putCategory front.length new = d.changed front back new := by
  simp [putCategory, changed, held]

def widen (d : Deck) (spec : CategorySpec) : Deck :=
  { d.changed d.categories [] (Category.ofSpec d.nextCategory spec) with nextCategory := d.nextCategory + 1 }

theorem add_category_fresh {d : Deck} {spec : CategorySpec} (fresh : d.containsCategory spec.name = false) :
    d.addCategory spec = .ok (d.widen spec, d.nextCategory) := by
  unfold addCategory
  rw [if_neg (by simp [fresh])]
  simp [widen, putCategory, changed]

theorem add_category_refused {d : Deck} {spec : CategorySpec} (held : d.containsCategory spec.name = true) :
    d.addCategory spec = .error (.categoryExists spec.name) := by
  rw [addCategory, if_pos held]

theorem widen_names (d : Deck) (spec : CategorySpec) (name : String) :
    (d.widen spec).containsCategory name = (d.containsCategory name || decide (spec.name = name)) := by
  simp [widen, changed, containsCategory, Category.ofSpec]

theorem of_spec_apart (id : CategoryId) (spec : CategorySpec) : (Category.ofSpec id spec).Apart := by
  intro card member out
  have kept := (List.mem_filter.1 (OrderedSet.mem_ofList.1 member)).2
  have listed : (OrderedSet.ofList spec.blacklist).contains card = true := OrderedSet.contains_iff.2 out
  simp [listed] at kept

theorem add_category_moves (d : Deck) (spec : CategorySpec) :
    Moves d (d.founded (.addCategory spec)) (d.settled (d.addCategory spec)) := by
  dsimp only [founded]
  cases held : d.containsCategory spec.name with
  | true =>
    rw [add_category_refused held]
    exact .stay
  | false =>
    rw [add_category_fresh held]
    exact (Move.found (Category.ofSpec d.nextCategory spec) held rfl (of_spec_apart d.nextCategory spec)).moves

theorem remove_category_moves (d : Deck) (name : String) : Moves d 0 (d.removeCategory name).1 := by
  unfold removeCategory
  split
  · exact .stay
  · rename_i c held
    obtain ⟨front, back, split, _, _, erased⟩ := category_split held
    dsimp only
    rw [erased]
    exact (Move.close front back c split).moves

theorem change_category_held {d : Deck} {name : String} {c : Category} (held : d.category? name = some c)
    (change : Category → Category × Bool) :
    ∃ front back, d.categories = front ++ c :: back ∧ c.name = name ∧
      d.changeCategory name change =
        .ok (if (change c).2 then d.changed front back (change c).1 else d, (change c).2) := by
  obtain ⟨front, back, split, named, index, _⟩ := category_split held
  refine ⟨front, back, split, named, ?_⟩
  rw [changeCategory, held, index]
  dsimp only
  rw [put_category_split d front back c _ split]

theorem change_category_refused {d : Deck} {name : String} (missing : d.category? name = none)
    (change : Category → Category × Bool) : d.changeCategory name change = .error (.noCategory name) := by
  rw [changeCategory, missing]
  cases d.categoryIndex? name <;> rfl

theorem change_category_moves (d : Deck) (name : String) (change : Category → Category × Bool)
    (sameId : ∀ c, (change c).1.id = c.id) (apart : ∀ c, c.Apart → (change c).1.Apart)
    (named : ∀ c, c.name = name → (change c).1.name = name ∨ d.containsCategory (change c).1.name = false) :
    Moves d 0 (d.settled (d.changeCategory name change)) := by
  cases held : d.category? name with
  | none =>
    rw [change_category_refused held]
    exact .stay
  | some c =>
    obtain ⟨front, back, split, cName, changed⟩ := change_category_held held change
    rw [changed]
    dsimp only [settled]
    by_cases flag : (change c).2
    · rw [if_pos flag]
      have name := named c cName
      rw [← cName] at name
      exact (Move.alter front back c _ split (sameId c) (apart c) name).moves
    · rw [if_neg flag]
      exact .stay

theorem force_in_shape (c : Category) (card : Card) :
    (c.forceIn card).1.id = c.id ∧ (c.forceIn card).1.name = c.name ∧
      (c.Apart → (c.forceIn card).1.Apart) := by
  unfold Category.forceIn
  dsimp only
  split
  · refine ⟨rfl, rfl, fun apart id white black => ?_⟩
    exact apart id white (OrderedSet.mem_erase.1 black).1
  · refine ⟨rfl, rfl, fun apart id white black => ?_⟩
    obtain ⟨old, other⟩ := OrderedSet.mem_erase.1 black
    rcases OrderedSet.mem_insert.1 white with same | member
    · exact other same
    · exact apart id member old

theorem keep_out_shape (c : Category) (card : Card) :
    (c.keepOut card).1.id = c.id ∧ (c.keepOut card).1.name = c.name ∧
      (c.Apart → (c.keepOut card).1.Apart) := by
  unfold Category.keepOut
  dsimp only
  split
  · refine ⟨rfl, rfl, fun apart id white black => ?_⟩
    obtain ⟨old, other⟩ := OrderedSet.mem_erase.1 white
    rcases OrderedSet.mem_insert.1 black with same | member
    · exact other same
    · exact apart id old member
  · refine ⟨rfl, rfl, fun apart id white black => ?_⟩
    exact apart id (OrderedSet.mem_erase.1 white).1 black

theorem edit_category_moves (d : Deck) (name newName : String) (filter : Filter) :
    Moves d 0 (d.settled (d.editCategory name newName filter)) := by
  have shape (c : Category) : (edited newName filter c).1.id = c.id ∧
      (edited newName filter c).1.name = newName ∧ (c.Apart → (edited newName filter c).1.Apart) := by
    unfold edited
    split
    · rename_i same
      exact ⟨rfl, same.1, id⟩
    · exact ⟨rfl, rfl, id⟩
  unfold editCategory
  split
  · exact .stay
  · split
    · exact .stay
    · rename_i _ free
      apply change_category_moves d name _ (fun c => (shape c).1) (fun c => (shape c).2.2)
      intro c _
      rw [(shape c).2.1]
      by_cases same : newName = name
      · exact .inl same
      · exact .inr (by simpa [same] using free)

theorem rename_category_moves (d : Deck) (name newName : String) :
    Moves d 0 (d.settled (d.renameCategory name newName)) := by
  unfold renameCategory
  split
  · exact .stay
  · exact edit_category_moves d name newName _

theorem set_swatch_held {d : Deck} {name : String} {c : Category} (held : d.category? name = some c)
    (swatch : Swatch) :
    ∃ front back, d.categories = front ++ c :: back ∧
      d.setSwatch name swatch =
        .ok ({ d with categories := front ++ { c with swatch := swatch } :: back }, c.swatch ≠ swatch) := by
  obtain ⟨front, back, split, _, index, _⟩ := category_split held
  refine ⟨front, back, split, ?_⟩
  rw [setSwatch, held, index]
  simp [split]

theorem set_swatch_refused {d : Deck} {name : String} (missing : d.category? name = none) (swatch : Swatch) :
    d.setSwatch name swatch = .error (.noCategory name) := by
  rw [setSwatch, missing]
  cases d.categoryIndex? name <;> rfl

theorem set_swatch_moves (d : Deck) (name : String) (swatch : Swatch) :
    Moves d 0 (d.settled (d.setSwatch name swatch)) := by
  cases held : d.category? name with
  | none =>
    rw [set_swatch_refused held]
    exact .stay
  | some c =>
    obtain ⟨front, back, split, called⟩ := set_swatch_held held swatch
    rw [called]
    exact (Move.paint front back c swatch split).moves

theorem after_moves (d : Deck) (c : Change) : Moves d (d.founded c) (d.after c) := by
  cases c with
  | add card n => exact add_moves d card n
  | addAll cards n => exact add_all_moves d cards n
  | remove id n => exact remove_moves d id n
  | setCount card n => exact set_count_moves d card n
  | setCountAt i n => exact set_count_at_moves d i n
  | clear => exact Move.clear.moves
  | addCategory spec => exact add_category_moves d spec
  | removeCategory name => exact remove_category_moves d name
  | forceIn name card =>
    exact change_category_moves d name _ (fun c => (force_in_shape c card).1)
      (fun c => (force_in_shape c card).2.2) (fun c same => .inl ((force_in_shape c card).2.1.trans same))
  | keepOut name card =>
    exact change_category_moves d name _ (fun c => (keep_out_shape c card).1)
      (fun c => (keep_out_shape c card).2.2) (fun c same => .inl ((keep_out_shape c card).2.1.trans same))
  | editCategory name newName filter => exact edit_category_moves d name newName filter
  | renameCategory name newName => exact rename_category_moves d name newName
  | setSwatch name swatch => exact set_swatch_moves d name swatch

theorem reached_moves {n : Nat} {d : Deck} (reached : Reached n d) : Moves empty n d := by
  induction reached with
  | start => exact .stay
  | change c _ ih => exact ih.trans (after_moves _ c)

theorem moves_categories {d e : Deck} {n : Nat} (moves : Moves d n e) :
    e.categories.length ≤ d.categories.length + n := by
  induction moves with
  | stay => exact Nat.le_refl _
  | next _ last ih =>
    cases last with
    | recount i n positive => exact ih
    | enter card n positive absent => simpa [append] using ih
    | leave i id present => simpa [dropAt] using ih
    | clear => exact Nat.zero_le _
    | found c fresh numbered apart => simpa [changed, ← Nat.add_assoc] using ih
    | close front back c held =>
      simp only [held, List.length_append, List.length_cons] at ih ⊢
      omega
    | alter front back c new held sameId apart name => simpa [changed, held] using ih
    | paint front back c swatch held => simpa [held] using ih

theorem reached_categories {n : Nat} {d : Deck} (reached : Reached n d) : d.categories.length ≤ n := by
  simpa [empty] using moves_categories (reached_moves reached)

end Deck

end Deckwright
