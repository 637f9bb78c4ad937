import Deckwright.Proofs.Deck.Count
set_option autoImplicit false

/- For the cards it is enough to follow a few numbers: what comes in adds to the copies in the deck, and what
   goes out leaves another count behind. Of the categories one differs, or there are more or fewer of them. -/
namespace Deckwright

namespace Category

theorem spec_lists {c e : Category} (same : e.toSpec = c.toSpec) (id : CardId) :
    e.whitelist.contains id = c.whitelist.contains id ∧ e.blacklist.contains id = c.blacklist.contains id := by
  have white : e.whitelist.toList = c.whitelist.toList := congrArg CategorySpec.whitelist same
  have black : e.blacklist.toList = c.blacklist.toList := congrArg CategorySpec.blacklist same
  constructor
  · rw [Bool.eq_iff_iff, OrderedSet.contains_iff, OrderedSet.contains_iff, white]
  · rw [Bool.eq_iff_iff, OrderedSet.contains_iff, OrderedSet.contains_iff, black]

theorem force_in_differs {c : Category} {card : Card} (told : (c.forceIn card).2 = true) :
    (c.forceIn card).1.toSpec ≠ c.toSpec := by
  intro same
  obtain ⟨white, black⟩ := spec_lists same card.id
  by_cases fits : c.filter.matchesCard card = true
  · simp only [forceIn, if_pos fits] at told black
    rw [OrderedSet.contains_erase_self] at black
    rw [← black] at told
    cases told
  · simp only [forceIn, if_neg fits] at told white black
    rw [OrderedSet.contains_erase_self] at black
    rw [OrderedSet.contains_insert_self] at white
    rw [← white, ← black] at told
    cases told

theorem keep_out_differs {c : Category} {card : Card} (told : (c.keepOut card).2 = true) :
    (c.keepOut card).1.toSpec ≠ c.toSpec := by
  intro same
  obtain ⟨white, black⟩ := spec_lists same card.id
  by_cases fits : c.filter.matchesCard card = true
  · simp only [keepOut, if_pos fits] at told white black
    rw [OrderedSet.contains_erase_self] at white
    rw [OrderedSet.contains_insert_self] at black
    rw [← white, ← black] at told
    cases told
  · simp only [keepOut, if_neg fits] at told white
    rw [OrderedSet.contains_erase_self] at white
    rw [← white] at told
    cases told

end Category

namespace Deck

inductive Report where
  | changed (flag : Bool)
  | removed (n : UInt32)
  | founded (id : CategoryId)
  | refused (e : DeckFault)
  | silent

def Report.tells : Report → Bool
  | .changed flag => flag
  | .removed n => n ≠ 0
  | .founded _ => true
  | .refused _ | .silent => false

def Report.ofFlag : Except DeckFault (Deck × Bool) → Report
  | .ok (_, flag) => .changed flag
  | .error e => .refused e

def Report.ofNumber : Except DeckFault (Deck × CategoryId) → Report
  | .ok (_, id) => .founded id
  | .error e => .refused e

def report (d : Deck) : Change → Report
  | .add card n => .changed (d.add card n).2
  | .addAll cards n => .changed (d.addAll cards n).2
  | .remove id n => .removed (d.remove id n).2
  | .setCount card n => .changed (d.setCount card n).2
  | .setCountAt i n => .changed (d.setCountAt i n).2
  | .clear => .silent
  | .addCategory spec => .ofNumber (d.addCategory spec)
  | .removeCategory name => .changed (d.removeCategory name).2
  | .forceIn name card => .ofFlag (d.forceIn name card)
  | .keepOut name card => .ofFlag (d.keepOut name card)
  | .editCategory name newName filter => .ofFlag (d.editCategory name newName filter)
  | .renameCategory name newName => .ofFlag (d.renameCategory name newName)
  | .setSwatch name swatch => .ofFlag (d.setSwatch name swatch)

/-- What is stored of a deck. All else is worked out from it. -/
structure Content where
  entries : List Entry
  categories : List CategorySpec

def content (d : Deck) : Content := ⟨d.entries, d.categories.map Category.toSpec⟩

structure Honest (d e : Deck) (told : Bool) : Prop where
  idle : told = false → e = d
  differs : told = true → e.content ≠ d.content

theorem honest_idle (d : Deck) : Honest d d false := ⟨fun _ => rfl, nofun⟩

theorem honest_told {d e : Deck} (differs : e.content ≠ d.content) : Honest d e true :=
  ⟨nofun, fun _ => differs⟩

section Cards

variable {d : Deck}

theorem differs_of_copies {e : Deck} (copies : copiesIn e.entries ≠ copiesIn d.entries) : e.content ≠ d.content := by
  intro same
  have entries : e.entries = d.entries := congrArg Content.entries same
  exact copies (congrArg copiesIn entries)

theorem recount_differs {id : CardId} {i : Nat} {n : UInt32} (listed : Listed d) (present : d.position? id = some i)
    (other : d.countAt i ≠ n) : (d.setCountOf i n).content ≠ d.content := by
  obtain ⟨front, e, back, held, rfl, _, _⟩ := position_split listed present
  rw [count_at_split held] at other
  have copies := copies_recount held n
  refine differs_of_copies fun same => other (UInt32.toNat_inj.mp ?_)
  omega

theorem leave_differs {id : CardId} {i : Nat} (listed : Listed d) (present : d.position? id = some i) :
    (d.dropAt i id).content ≠ d.content := by
  obtain ⟨front, e, back, held, rfl, _, _⟩ := position_split listed present
  rw [drop_at_split id held]
  intro same
  have entries := congrArg (fun content => content.entries.length) same
  simp [content, held] at entries

def Grows (d e : Deck) (told : Bool) : Prop :=
  (told = false ∧ e = d) ∨ (told = true ∧ copiesIn d.entries < copiesIn e.entries)

theorem grows_next {e f : Deck} {first second : Bool} (one : Grows d e first) (other : Grows e f second) :
    Grows d f (first || second) := by
  rcases one with ⟨rfl, rfl⟩ | ⟨rfl, more⟩
  · exact other
  · rcases other with ⟨rfl, rfl⟩ | ⟨rfl, further⟩
    · exact .inr ⟨rfl, more⟩
    · exact .inr ⟨rfl, Nat.lt_trans more further⟩

theorem honest_of_grows {e : Deck} {told : Bool} (grows : Grows d e told) : Honest d e told := by
  rcases grows with ⟨rfl, rfl⟩ | ⟨rfl, more⟩
  · exact honest_idle _
  · exact honest_told (differs_of_copies (Nat.ne_of_gt more))

theorem add_grows (listed : Listed d) (card : Card) (n : UInt32) : Grows d (d.add card n).1 (d.add card n).2 := by
  rcases add_cases d card n with ⟨idle, _⟩ | ⟨i, count, present, positive, counted, more⟩ | ⟨_, positive, entered⟩
  · rw [idle]
    exact .inl ⟨rfl, rfl⟩
  · rw [more]
    obtain ⟨front, e, back, held, rfl, _, _⟩ := position_split listed present
    rw [count_at_split held] at counted
    have copies := copies_recount held count
    have exact := sum_exact counted
    have some := count_positive positive
    exact .inr ⟨rfl, by dsimp only; omega⟩
  · rw [entered]
    have some := count_positive positive
    refine .inr ⟨rfl, ?_⟩
    simpa [copiesIn, append] using some

theorem add_all_grows (listed : Listed d) (cards : List Card) (n : UInt32) :
    Grows d (d.addAll cards n).1 (d.addAll cards n).2 := by
  induction cards generalizing d with
  | nil => exact .inl ⟨rfl, rfl⟩
  | cons card rest ih =>
    rw [add_all_cons]
    exact grows_next (add_grows listed card n) (ih (moves_listed listed (add_moves d card n)))

theorem remove_honest (listed : Listed d) (id : CardId) (n : UInt32) :
    Honest d (d.remove id n).1 ((d.remove id n).2 ≠ 0) := by
  rcases remove_cases d id n with ⟨idle, _⟩ | ⟨i, present, _, _, left⟩ | ⟨i, present, positive, more, fewer⟩
  · rw [idle]
    exact honest_idle d
  · rw [left, decide_eq_true (count_at_present listed present)]
    exact honest_told (leave_differs listed present)
  · rw [fewer, decide_eq_true positive]
    obtain ⟨most, rest⟩ := rest_exact more
    have some := count_positive positive
    refine honest_told (recount_differs listed present fun same => ?_)
    rw [← same] at rest
    omega

theorem set_count_honest (listed : Listed d) (card : Card) (n : UInt32) :
    Honest d (d.setCount card n).1 (d.setCount card n).2 := by
  rcases set_count_cases d card n with ⟨_, added⟩ | ⟨_, _, _, idle⟩ | ⟨i, present, _, _, left⟩ | ⟨i, present, other, _, put⟩
  · rw [added]
    exact honest_of_grows (add_grows listed card n)
  · rw [idle]
    exact honest_idle d
  · rw [left]
    exact honest_told (leave_differs listed present)
  · rw [put]
    exact honest_told (recount_differs listed present other)

theorem set_count_at_honest (listed : Listed d) (i : Nat) (n : UInt32) :
    Honest d (d.setCountAt i n).1 (d.setCountAt i n).2 := by
  cases access : d.cardAt? i with
  | none =>
    rw [setCountAt, access]
    exact honest_idle d
  | some card =>
    rw [setCountAt, access]
    exact set_count_honest listed card n

end Cards

section Categories

variable {d : Deck}

theorem differs_of_specs {e : Deck} (specs : e.categories.map Category.toSpec ≠ d.categories.map Category.toSpec) :
    e.content ≠ d.content :=
  fun same => specs (congrArg Content.categories same)

theorem middle_differs {front back : List Category} {old new : Category} (other : new.toSpec ≠ old.toSpec) :
    (front ++ new :: back).map Category.toSpec ≠ (front ++ old :: back).map Category.toSpec := by
  intro same
  rw [List.map_append, List.map_append, List.map_cons, List.map_cons, List.append_cancel_left_eq] at same
  exact other (List.cons.inj same).1

theorem add_category_honest (d : Deck) (spec : CategorySpec) :
    Honest d (d.settled (d.addCategory spec)) (Report.ofNumber (d.addCategory spec)).tells := by
  cases held : d.containsCategory spec.name with
  | true =>
    rw [add_category_refused held]
    exact honest_idle d
  | false =>
    rw [add_category_fresh held]
    refine honest_told (differs_of_specs fun same => ?_)
    have length := congrArg List.length same
    simp [settled, widen, changed] at length

theorem remove_category_honest (d : Deck) (name : String) :
    Honest d (d.removeCategory name).1 (d.removeCategory name).2 := by
  cases held : d.category? name with
  | none =>
    rw [removeCategory, held]
    exact honest_idle d
  | some c =>
    obtain ⟨front, back, split, _, _, erased⟩ := category_split held
    rw [removeCategory, held]
    dsimp only
    rw [erased]
    refine honest_told (differs_of_specs fun same => ?_)
    have length := congrArg List.length same
    simp [split] at length

theorem change_category_honest (d : Deck) (name : String) {change : Category → Category × Bool}
    (differs : ∀ c, (change c).2 = true → (change c).1.toSpec ≠ c.toSpec) :
    Honest d (d.settled (d.changeCategory name change)) (Report.ofFlag (d.changeCategory name change)).tells := by
  cases held : d.category? name with
  | none =>
    rw [change_category_refused held]
    exact honest_idle d
  | some c =>
    obtain ⟨front, back, split, _, called⟩ := change_category_held held change
    rw [called]
    cases flag : (change c).2 with
    | false =>
      rw [if_neg (by decide)]
      exact honest_idle d
    | true =>
      rw [if_pos rfl]
      refine honest_told (differs_of_specs ?_)
      rw [split]
      exact middle_differs (differs c flag)

theorem edited_differs {name : String} {filter : Filter} {c : Category} (told : (edited name filter c).2 = true) :
    (edited name filter c).1.toSpec ≠ c.toSpec := by
  by_cases same : c.name = name ∧ c.filter = filter
  · rw [edited, if_pos same] at told
    cases told
  · rw [edited, if_neg same]
    intro specs
    exact same ⟨(congrArg CategorySpec.name specs).symm, (congrArg CategorySpec.filter specs).symm⟩

theorem edit_category_honest (d : Deck) (name newName : String) (filter : Filter) :
    Honest d (d.settled (d.editCategory name newName filter))
      (Report.ofFlag (d.editCategory name newName filter)).tells := by
  unfold editCategory
  split
  · exact honest_idle d
  · split
    · exact honest_idle d
    · exact change_category_honest d name fun _ => edited_differs

theorem rename_category_honest (d : Deck) (name newName : String) :
    Honest d (d.settled (d.renameCategory name newName)) (Report.ofFlag (d.renameCategory name newName)).tells := by
  unfold renameCategory
  split
  · exact honest_idle d
  · exact edit_category_honest d name newName _

theorem set_swatch_honest (d : Deck) (name : String) (swatch : Swatch) :
    Honest d (d.settled (d.setSwatch name swatch)) (Report.ofFlag (d.setSwatch name swatch)).tells := by
  cases held : d.category? name with
  | none =>
    rw [set_swatch_refused held]
    exact honest_idle d
  | some c =>
    obtain ⟨front, back, split, called⟩ := set_swatch_held held swatch
    rw [called]
    by_cases same : c.swatch = swatch
    · subst same
      rw [decide_eq_false (by simp), ← split]
      exact honest_idle d
    · rw [decide_eq_true same]
      refine honest_told (differs_of_specs ?_)
      rw [split]
      exact middle_differs fun specs => same (congrArg CategorySpec.swatch specs).symm

end Categories

theorem after_honest {d : Deck} (listed : Listed d) (c : Change) (spoken : c ≠ .clear) :
    Honest d (d.after c) (d.report c).tells := by
  cases c with
  | add card n => exact honest_of_grows (add_grows listed card n)
  | addAll cards n => exact honest_of_grows (add_all_grows listed cards n)
  | remove id n => exact remove_honest listed id n
  | setCount card n => exact set_count_honest listed card n
  | setCountAt i n => exact set_count_at_honest listed i n
  | clear => exact absurd rfl spoken
  | addCategory spec => exact add_category_honest d spec
  | removeCategory name => exact remove_category_honest d name
  | forceIn name card => exact change_category_honest d name fun _ => Category.force_in_differs
  | keepOut name card => exact change_category_honest d name fun _ => Category.keep_out_differs
  | editCategory name newName filter => exact edit_category_honest d name newName filter
  | renameCategory name newName => exact rename_category_honest d name newName
  | setSwatch name swatch => exact set_swatch_honest d name swatch

/-- A deck tells a change just when its entries differ afterwards or what is stored of its categories does.
    If it refuses, or tells that nothing has changed, the whole deck is as it was. -/
theorem changes_told {n : Nat} {d : Deck} (reached : Reached n d) (c : Change) (spoken : c ≠ .clear) :
    ((d.report c).tells = true ↔ (d.after c).content ≠ d.content) ∧
      ((d.report c).tells = false → d.after c = d) := by
  have honest := after_honest (reached_listed reached) c spoken
  refine ⟨⟨honest.differs, fun differs => ?_⟩, honest.idle⟩
  cases told : (d.report c).tells with
  | true => rfl
  | false => exact absurd (congrArg content (honest.idle told)) differs

theorem bears_told :
    let bear := Card.ofFaces "bear" ⟨"", "", "", ""⟩ .common [Face.ofName "Bear"]
    let d := ((empty.after (.add bear greatest)).after (.addCategory ⟨"All", .everything, [], [], .black⟩)).after
      (.addCategory ⟨"None", .nothing, ["bear"], [], .black⟩)
    d.after (.add bear 1) = d ∧ d.after (.editCategory "All" "None" .nothing) = d ∧
      (d.after (.keepOut "None" bear)).content ≠ d.content := by
  intro bear d
  obtain ⟨n, reached⟩ : ∃ n, Reached n d := ⟨_, .change _ (.change _ (.change _ .start))⟩
  exact ⟨(changes_told reached (.add bear 1) nofun).2 (by decide +kernel),
    (changes_told reached (.editCategory "All" "None" .nothing) nofun).2 (by decide +kernel),
    (changes_told reached (.keepOut "None" bear) nofun).1.1 (by decide +kernel)⟩

end Deck

end Deckwright
