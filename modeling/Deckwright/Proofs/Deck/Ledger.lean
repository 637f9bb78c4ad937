import Deckwright.Proofs.Deck.Count
import Deckwright.Proofs.Deck.Interleaving
import Mathlib.Algebra.Ring.Int.Defs
set_option autoImplicit false

/- What the ledger says of a line later on is said by the lines up to it, so one line more changes nothing that
   was said of the lines before. -/
namespace Deckwright.Deck

/-- Copies of a card that came in, or that went out if there are less than none. -/
structure Booking where
  id : CardId
  amount : Int

def balance (lines : List Booking) (id : CardId) : Int :=
  ((lines.filter fun b => b.id = id).map Booking.amount).sum

def bookAdd (d : Deck) (card : Card) (n : UInt32) : List Booking :=
  if (d.add card n).2 then [⟨card.id, n.toNat⟩] else []

def bookAll (d : Deck) (n : UInt32) : List Card → List Booking
  | [] => []
  | card :: rest => d.bookAdd card n ++ (d.add card n).1.bookAll n rest

def bookCount (d : Deck) (card : Card) (n : UInt32) : List Booking :=
  [⟨card.id, n.toNat - (d.count card.id).toNat⟩]

def bookings (d : Deck) : Change → List Booking
  | .add card n => d.bookAdd card n
  | .addAll cards n => d.bookAll n cards
  | .remove id n => [⟨id, -(d.remove id n).2.toNat⟩]
  | .setCount card n => d.bookCount card n
  | .setCountAt i n =>
    match d.cardAt? i with
    | some card => d.bookCount card n
    | none => []
  | _ => []

structure Account where
  deck : Deck
  lines : List Booking

def Account.next (a : Account) (c : Change) : Account where
  deck := a.deck.after c
  lines :=
    match c with
    | .clear => []
    | c => a.lines ++ a.deck.bookings c

def account (run : List Change) : Account := run.foldl Account.next ⟨empty, []⟩

/-- Line k began the stay of a card: there was none before it, and ever since there has been one. -/
structure Since (lines : List Booking) (id : CardId) (k : Nat) : Prop where
  within : k < lines.length
  fresh : balance (lines.take k) id = 0
  lasting : ∀ j, k < j → j ≤ lines.length → 0 < balance (lines.take j) id

def Earlier (lines : List Booking) (id other : CardId) : Prop :=
  ∃ j k, j < k ∧ Since lines id j ∧ Since lines other k

def Moved (d e : Deck) (b : Booking) : Prop :=
  ∀ id, ((e.count id).toNat : Int) = (d.count id).toNat + balance [b] id

structure Kept (d : Deck) (lines : List Booking) : Prop where
  counted : ∀ id, ((d.count id).toNat : Int) = balance lines id
  bounded : ∀ j id, 0 ≤ balance (lines.take j) id ∧ balance (lines.take j) id < UInt32.size
  stays : ∀ id ∈ d.entries.map Entry.id, ∃ k, Since lines id k
  order : (d.entries.map Entry.id).Pairwise (Earlier lines)

section Lines

variable {lines : List Booking} {b : Booking} {id other : CardId} {k : Nat}

theorem balance_append (lines more : List Booking) (id : CardId) :
    balance (lines ++ more) id = balance lines id + balance more id := by
  simp [balance]

theorem balance_own (id : CardId) (amount : Int) : balance [⟨id, amount⟩] id = amount := by
  simp [balance]

theorem balance_other {amount : Int} (away : other ≠ id) : balance [⟨id, amount⟩] other = 0 := by
  simp [balance, Ne.symm away]

theorem take_booked (lines : List Booking) (b : Booking) (j : Nat) :
    (j ≤ lines.length ∧ (lines ++ [b]).take j = lines.take j) ∨
      (lines.length < j ∧ (lines ++ [b]).take j = lines ++ [b]) := by
  by_cases old : j ≤ lines.length
  · exact .inl ⟨old, List.take_append_of_le_length old⟩
  · exact .inr ⟨Nat.lt_of_not_le old, List.take_of_length_le (by simp; omega)⟩

theorem since_booked (since : Since lines id k) (still : 0 < balance (lines ++ [b]) id) :
    Since (lines ++ [b]) id k := by
  have within := since.within
  refine ⟨by simp; omega, ?_, fun j behind _ => ?_⟩
  · rw [List.take_append_of_le_length (by omega)]
    exact since.fresh
  · rcases take_booked lines b j with ⟨old, up⟩ | ⟨_, up⟩
    · rw [up]
      exact since.lasting j behind old
    · rw [up]
      exact still

theorem since_begun (none : balance lines id = 0) (some : 0 < balance (lines ++ [b]) id) :
    Since (lines ++ [b]) id lines.length := by
  refine ⟨by simp, ?_, fun j behind _ => ?_⟩
  · rw [List.take_left]
    exact none
  · rcases take_booked lines b j with ⟨old, _⟩ | ⟨_, up⟩
    · omega
    · rw [up]
      exact some

theorem earlier_booked (earlier : Earlier lines id other) (still : 0 < balance (lines ++ [b]) id)
    (stays : 0 < balance (lines ++ [b]) other) : Earlier (lines ++ [b]) id other := by
  obtain ⟨j, k, before, first, second⟩ := earlier
  exact ⟨j, k, before, since_booked first still, since_booked second stays⟩

end Lines

section Step

variable {d e : Deck} {lines : List Booking} {b : Booking}

theorem entry_counted (listed : Listed d) {id : CardId} (member : id ∈ d.entries.map Entry.id) : 0 < (d.count id).toNat := by
  refine count_positive ?_
  cases present : d.position? id with
  | none =>
    obtain ⟨e, inside, rfl⟩ := List.mem_map.1 member
    exact absurd rfl (absent_ids listed present e.card (List.mem_map_of_mem inside))
  | some i =>
    rw [count_placed present]
    exact count_at_present listed present

theorem balances_booked (kept : Kept d lines) (moved : Moved d e b) (id : CardId) :
    ((e.count id).toNat : Int) = balance (lines ++ [b]) id := by
  rw [moved, kept.counted, balance_append]

theorem bounds_booked (kept : Kept d lines) (moved : Moved d e b) (j : Nat) (id : CardId) :
    0 ≤ balance ((lines ++ [b]).take j) id ∧ balance ((lines ++ [b]).take j) id < UInt32.size := by
  rcases take_booked lines b j with ⟨_, up⟩ | ⟨_, up⟩
  · rw [up]
    exact kept.bounded j id
  · have bound := (e.count id).toNat_lt_size
    rw [up, ← balances_booked kept moved]
    omega

theorem still_there (listed : Listed e) (counted : ∀ id, ((e.count id).toNat : Int) = balance lines id) :
    ∀ id ∈ e.entries.map Entry.id, 0 < balance lines id := by
  intro id member
  have some := entry_counted listed member
  rw [← counted]
  omega

theorem kept_places (kept : Kept d lines) (listed : Listed e) (moved : Moved d e b)
    (places : (e.entries.map Entry.id).Sublist (d.entries.map Entry.id)) : Kept e (lines ++ [b]) := by
  have counted := balances_booked kept moved
  have still := still_there listed counted
  refine ⟨counted, bounds_booked kept moved, fun id member => ?_, ?_⟩
  · obtain ⟨k, since⟩ := kept.stays id (places.subset member)
    exact ⟨k, since_booked since (still id member)⟩
  · refine (kept.order.sublist places).imp_of_mem fun {id other} first second earlier => ?_
    exact earlier_booked earlier (still id first) (still other second)

theorem kept_enters (kept : Kept d lines) (listed : Listed e) (moved : Moved d e b)
    (places : e.entries.map Entry.id = d.entries.map Entry.id ++ [b.id]) (absent : d.count b.id = 0) :
    Kept e (lines ++ [b]) := by
  have counted := balances_booked kept moved
  have still := still_there listed counted
  have fresh : balance lines b.id = 0 := by rw [← kept.counted, absent]; rfl
  rw [places] at still
  have begun : Since (lines ++ [b]) b.id lines.length := since_begun fresh (still b.id (by simp))
  have stays (id : CardId) (member : id ∈ d.entries.map Entry.id) :
      ∃ k, k < lines.length ∧ Since (lines ++ [b]) id k := by
    obtain ⟨k, since⟩ := kept.stays id member
    exact ⟨k, since.within, since_booked since (still id (List.mem_append_left _ member))⟩
  refine ⟨counted, bounds_booked kept moved, ?_, ?_⟩
  · rw [places]
    intro id member
    rcases List.mem_append.1 member with old | new
    · obtain ⟨k, _, since⟩ := stays id old
      exact ⟨k, since⟩
    · exact ⟨lines.length, List.mem_singleton.1 new ▸ begun⟩
  · rw [places, List.pairwise_append]
    refine ⟨kept.order.imp_of_mem fun {id other} first second earlier => ?_, List.pairwise_singleton _ _, ?_⟩
    · exact earlier_booked earlier (still id (List.mem_append_left _ first)) (still other (List.mem_append_left _ second))
    · intro id old other new
      obtain ⟨k, before, since⟩ := stays id old
      exact ⟨k, lines.length, before, since, List.mem_singleton.1 new ▸ begun⟩

end Step

section Moves

variable {d : Deck} {lines : List Booking}

theorem kept_idle (kept : Kept d lines) (listed : Listed d) (id : CardId) : Kept d (lines ++ [⟨id, 0⟩]) := by
  refine kept_places kept listed (fun other => ?_) (List.Sublist.refl _)
  by_cases same : other = id
  · rw [same, balance_own, Int.add_zero]
  · rw [balance_other same, Int.add_zero]

theorem kept_recount (kept : Kept d lines) (listed : Listed d) {id : CardId} {i : Nat} {n : UInt32}
    (present : d.position? id = some i) (positive : n ≠ 0) :
    Kept (d.setCountOf i n) (lines ++ [⟨id, n.toNat - (d.count id).toNat⟩]) := by
  have after := listed_recount listed i n positive
  have counts := count_recount listed present positive
  obtain ⟨front, e, back, held, rfl, same, others⟩ := position_split listed present
  refine kept_places kept after (fun x => ?_) ?_
  · rw [counts]
    by_cases hit : x = id
    · subst hit
      rw [if_pos rfl, balance_own]
      omega
    · rw [if_neg hit, balance_other hit, Int.add_zero]
  · rw [recount_at_split held, held]
    simp [Entry.id]

theorem kept_enter (kept : Kept d lines) (listed : Listed d) {card : Card} {n : UInt32} (positive : n ≠ 0)
    (absent : d.position? card.id = none) : Kept (d.append card n) (lines ++ [⟨card.id, n.toNat⟩]) := by
  have after := listed_enter listed card n positive absent
  refine kept_enters kept after (fun x => ?_) ?_ (count_absent absent)
  · rw [count_append listed absent positive]
    by_cases hit : x = card.id
    · subst hit
      rw [if_pos rfl, balance_own, count_absent absent]
      simp
    · rw [if_neg hit, balance_other hit, Int.add_zero]
  · simp [append, Entry.id]

theorem kept_leave (kept : Kept d lines) (listed : Listed d) {id : CardId} {i : Nat} (present : d.position? id = some i) :
    Kept (d.dropAt i id) (lines ++ [⟨id, -(d.count id).toNat⟩]) := by
  have after := listed_leave listed i id present
  have counts := count_drop listed present
  obtain ⟨front, e, back, held, rfl, same, others⟩ := position_split listed present
  refine kept_places kept after (fun x => ?_) ?_
  · rw [counts]
    by_cases hit : x = id
    · subst hit
      rw [if_pos rfl, balance_own, Int.add_right_neg]
      rfl
    · rw [if_neg hit, balance_other hit, Int.add_zero]
  · rw [drop_at_split id held, held]
    exact List.Sublist.map Entry.id (by simp)

theorem kept_empty (k : CategoryId) : Kept { empty with nextCategory := k } [] := by
  refine ⟨fun _ => rfl, fun j id => ?_, by simp [empty], List.Pairwise.nil⟩
  have none : balance [] id = 0 := rfl
  rw [List.take_nil, none]
  decide

theorem kept_same {e : Deck} (kept : Kept d lines) (same : SameCards e d) : Kept e lines := by
  have counts (id : CardId) : e.count id = d.count id := by
    rw [count, count, entry?, entry?, position?, position?, same.1, same.2]
  exact ⟨fun id => by rw [counts, kept.counted], kept.bounded, same.1 ▸ kept.stays, same.1 ▸ kept.order⟩

end Moves

section Changes

variable {d : Deck} {lines : List Booking}

theorem kept_add (kept : Kept d lines) (listed : Listed d) (card : Card) (n : UInt32) :
    Kept (d.add card n).1 (lines ++ d.bookAdd card n) := by
  rcases add_cases d card n with ⟨idle, _⟩ | ⟨i, count, present, positive, counted, more⟩ | ⟨absent, positive, entered⟩
  · rw [bookAdd, idle, if_neg Bool.false_ne_true, List.append_nil]
    exact kept
  · rw [bookAdd, more, if_pos rfl]
    have exact := sum_exact counted
    have amount : (n.toNat : Int) = count.toNat - (d.count card.id).toNat := by
      rw [count_placed present]
      omega
    rw [amount]
    exact kept_recount kept listed present (sum_nonzero positive counted)
  · rw [bookAdd, entered, if_pos rfl]
    exact kept_enter kept listed positive absent

theorem kept_add_all (kept : Kept d lines) (listed : Listed d) (n : UInt32) (cards : List Card) :
    Kept (d.addAll cards n).1 (lines ++ d.bookAll n cards) := by
  induction cards generalizing d lines with
  | nil =>
    rw [bookAll, List.append_nil]
    exact kept
  | cons card rest ih =>
    rw [add_all_cons, bookAll, ← List.append_assoc]
    exact ih (kept_add kept listed card n) (moves_listed listed (add_moves d card n))

theorem kept_remove (kept : Kept d lines) (listed : Listed d) (id : CardId) (n : UInt32) :
    Kept (d.remove id n).1 (lines ++ [⟨id, -(d.remove id n).2.toNat⟩]) := by
  rcases remove_cases d id n with ⟨idle, _⟩ | ⟨i, present, _, _, left⟩ | ⟨i, present, positive, more, fewer⟩
  · rw [idle]
    exact kept_idle kept listed id
  · rw [left]
    dsimp only
    rw [← count_placed present]
    exact kept_leave kept listed present
  · rw [fewer]
    obtain ⟨most, rest⟩ := rest_exact more
    have amount : -(n.toNat : Int) = (d.countAt i - n).toNat - (d.count id).toNat := by
      rw [count_placed present]
      omega
    dsimp only
    rw [amount]
    refine kept_recount kept listed present fun zero => ?_
    rw [zero, UInt32.toNat_zero] at rest
    omega

theorem kept_set_count (kept : Kept d lines) (listed : Listed d) (card : Card) (n : UInt32) :
    Kept (d.setCount card n).1 (lines ++ d.bookCount card n) := by
  rcases set_count_cases d card n with ⟨absent, added⟩ | ⟨i, present, same, idle⟩ | ⟨i, present, _, rfl, left⟩ |
    ⟨i, present, _, positive, put⟩
  · rw [added, bookCount, count_absent absent]
    by_cases none : n = 0
    · subst none
      rw [add, if_pos rfl]
      exact kept_idle kept listed card.id
    · rw [add_absent none absent]
      simpa using kept_enter kept listed none absent
  · rw [idle, bookCount, count_placed present, same, Int.sub_self]
    exact kept_idle kept listed card.id
  · rw [left, bookCount]
    simpa using kept_leave kept listed present
  · rw [put]
    exact kept_recount kept listed present positive

theorem kept_set_count_at (kept : Kept d lines) (listed : Listed d) (i : Nat) (n : UInt32) :
    Kept (d.setCountAt i n).1 (lines ++ d.bookings (.setCountAt i n)) := by
  cases access : d.cardAt? i with
  | none =>
    rw [setCountAt, bookings, access]
    simpa using kept
  | some card =>
    rw [setCountAt, bookings, access]
    exact kept_set_count kept listed card n

theorem remove_category_same_cards (d : Deck) (name : String) : SameCards (d.removeCategory name).1 d := by
  unfold removeCategory
  split <;> exact ⟨rfl, rfl⟩

theorem change_category_same_cards (d : Deck) (name : String) (change : Category → Category × Bool) :
    SameCards (d.settled (d.changeCategory name change)) d := by
  cases held : d.category? name with
  | none =>
    rw [change_category_refused held]
    exact ⟨rfl, rfl⟩
  | some c =>
    obtain ⟨front, back, _, _, called⟩ := change_category_held held change
    rw [called]
    dsimp only [settled]
    split <;> exact ⟨rfl, rfl⟩

theorem edit_category_same_cards (d : Deck) (name newName : String) (filter : Filter) :
    SameCards (d.settled (d.editCategory name newName filter)) d := by
  unfold editCategory
  split
  · exact ⟨rfl, rfl⟩
  · split
    · exact ⟨rfl, rfl⟩
    · exact change_category_same_cards d name _

theorem rename_category_same_cards (d : Deck) (name newName : String) :
    SameCards (d.settled (d.renameCategory name newName)) d := by
  unfold renameCategory
  split
  · exact ⟨rfl, rfl⟩
  · exact edit_category_same_cards d name newName _

theorem set_swatch_same_cards (d : Deck) (name : String) (swatch : Swatch) :
    SameCards (d.settled (d.setSwatch name swatch)) d := by
  unfold setSwatch
  split <;> exact ⟨rfl, rfl⟩

end Changes

theorem kept_next {a : Account} (listed : Listed a.deck) (kept : Kept a.deck a.lines) (c : Change) :
    Kept (a.next c).deck (a.next c).lines := by
  have shelf {e : Deck} (same : SameCards e a.deck) : Kept e (a.lines ++ []) := by
    rw [List.append_nil]
    exact kept_same kept same
  cases c with
  | add card n => exact kept_add kept listed card n
  | addAll cards n => exact kept_add_all kept listed n cards
  | remove id n => exact kept_remove kept listed id n
  | setCount card n => exact kept_set_count kept listed card n
  | setCountAt i n => exact kept_set_count_at kept listed i n
  | clear => exact kept_empty _
  | addCategory spec => exact shelf (found_same_cards spec)
  | removeCategory name => exact shelf (remove_category_same_cards _ name)
  | forceIn name card => exact shelf (change_category_same_cards _ name _)
  | keepOut name card => exact shelf (change_category_same_cards _ name _)
  | editCategory name newName filter => exact shelf (edit_category_same_cards _ name newName filter)
  | renameCategory name newName => exact shelf (rename_category_same_cards _ name newName)
  | setSwatch name swatch => exact shelf (set_swatch_same_cards _ name swatch)

theorem run_kept (run : List Change) {n : Nat} {a : Account} (reached : Reached n a.deck) (kept : Kept a.deck a.lines) :
    Kept (run.foldl Account.next a).deck (run.foldl Account.next a).lines := by
  induction run generalizing n a with
  | nil => exact kept
  | cons c rest ih => exact ih (.change c reached) (kept_next (reached_listed reached) kept c)

/-- After any run of changes the copies of a card in the deck are the balance of what came in and went out
    since the deck was last cleared, which never fell below none nor grew beyond number, and the cards stand
    in the order in which they came to stay. An addition is taken just when the copies can be counted, and a
    removal takes what is asked for or all there is. -/
theorem copies_accounted (run : List Change) :
    let a := account run
    Kept a.deck a.lines ∧
      (∀ card n, (a.deck.add card n).2 = true ↔ 0 < n.toNat ∧ balance a.lines card.id + n.toNat < UInt32.size) ∧
      (∀ id n, ((a.deck.remove id n).2.toNat : Int) = min (n.toNat : Int) (balance a.lines id)) := by
  have kept : Kept (account run).deck (account run).lines := run_kept run .start (kept_empty 0)
  refine ⟨kept, fun card n => ?_, fun id n => ?_⟩
  · rw [← kept.counted, add_taken]
    omega
  · rw [← kept.counted, removed_least]
    omega

end Deckwright.Deck
