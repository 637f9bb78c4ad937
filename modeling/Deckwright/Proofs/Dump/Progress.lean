import Deckwright.Proofs.Dump.Course
set_option autoImplicit false

namespace Deckwright

def LoadEvent.progress? : LoadEvent → Option Progress
  | .stage _ => none
  | .progress p => some p

def Progress.percent? : Progress → Option Nat
  | .unknown => none
  | .percent n => some n

def reports (es : List LoadEvent) : List Progress := es.filterMap LoadEvent.progress?

def percents (es : List LoadEvent) : List Nat := (reports es).filterMap Progress.percent?

theorem percents_append (es fs : List LoadEvent) : percents (es ++ fs) = percents es ++ percents fs := by
  rw [percents, reports, List.filterMap_append, List.filterMap_append]
  rfl

def Climbs (step last : Nat) : List Nat → Prop
  | [] => True
  | p :: rest => (last ≤ p ∧ p ≤ 100 ∧ (p < 100 → last + step ≤ p)) ∧ Climbs step p rest

theorem climbs_within {step last : Nat} {ps : List Nat} (climbs : Climbs step last ps) :
    ∀ p ∈ ps, last ≤ p ∧ p ≤ 100 := by
  induction ps generalizing last with
  | nil => simp
  | cons q rest ih =>
    obtain ⟨⟨above, below, _⟩, later⟩ := climbs
    intro p member
    rcases List.mem_cons.1 member with rfl | inside
    · exact ⟨above, below⟩
    · exact ⟨Nat.le_trans above (ih later p inside).1, (ih later p inside).2⟩

theorem climbs_sorted {step last : Nat} {ps : List Nat} (climbs : Climbs step last ps) :
    (last :: ps).Pairwise (· ≤ ·) := by
  induction ps generalizing last with
  | nil => simp
  | cons q rest ih => exact List.pairwise_cons.2 ⟨fun p member => (climbs_within climbs p member).1, ih climbs.2⟩

theorem climbs_steps {step last : Nat} {ps front back : List Nat} {p q : Nat} (climbs : Climbs step last ps)
    (split : last :: ps = front ++ p :: q :: back) (short : q < 100) : p + step ≤ q := by
  induction ps generalizing last front with
  | nil =>
    have lengths := congrArg List.length split
    simp only [List.length_append, List.length_cons, List.length_nil] at lengths
    omega
  | cons r rest ih =>
    cases front with
    | nil =>
      obtain ⟨rfl, tail⟩ := List.cons.inj split
      obtain ⟨rfl, _⟩ := List.cons.inj tail
      exact climbs.1.2.2 short
    | cons s front => exact ih climbs.2 (List.cons.inj split).2

theorem climbs_hundred {step last : Nat} {ps : List Nat} (climbs : Climbs step last ps) (below : last ≤ 100) :
    Climbs step last (ps ++ [100]) := by
  induction ps generalizing last with
  | nil => exact ⟨⟨below, Nat.le_refl _, fun less => absurd less (Nat.lt_irrefl _)⟩, trivial⟩
  | cons p rest ih => exact ⟨climbs.1, ih climbs.2 climbs.1.2.1⟩

namespace Meter

structure Fair (m : Meter) : Prop where
  stepping : 0 < m.step
  within : m.done ≤ m.total
  behind : m.reported ≤ m.percent

variable {m : Meter}

theorem percent_full (some : m.total ≠ 0) (within : m.done ≤ m.total) :
    m.percent ≤ 100 ∧ (m.percent = 100 ↔ m.done = m.total) := by
  have positive : 0 < m.total := Nat.pos_of_ne_zero some
  rw [percent, Nat.min_eq_left within]
  rcases Nat.lt_or_eq_of_le within with less | full
  · have short : m.done * 100 / m.total < 100 := (Nat.div_lt_iff_lt_mul positive).2 (by omega)
    exact ⟨Nat.le_of_lt short, fun hundred => absurd hundred (Nat.ne_of_lt short),
      fun same => absurd same (Nat.ne_of_lt less)⟩
  · have hundred : m.done * 100 / m.total = 100 := by
      rw [full, Nat.mul_comm, Nat.mul_div_cancel _ positive]
    exact ⟨Nat.le_of_eq hundred, fun _ => full, fun _ => hundred⟩

theorem percent_grows (m : Meter) : m.percent ≤ { m with done := m.done + 1 }.percent :=
  Nat.div_le_div_right (Nat.mul_le_mul_right 100 (by dsimp only; omega))

def Tells (m : Meter) (due : Option Progress) : Prop :=
  match due with
  | none => m.done + 1 ≠ m.total
  | some p => ∃ n, p = .percent n ∧ (m.reported ≤ n ∧ n ≤ 100 ∧ (n < 100 → m.reported + m.step ≤ n)) ∧
      (n = 100 ↔ m.done + 1 = m.total)

theorem advance_fair (fair : m.Fair) (more : m.done < m.total) :
    m.advance.1.Fair ∧ m.Tells m.advance.2 ∧ m.advance.1.total = m.total ∧ m.advance.1.done = m.done + 1 ∧
      m.advance.1.step = m.step ∧
      m.advance.1.reported = ((m.advance.2.bind Progress.percent?).getD m.reported) := by
  obtain ⟨stepping, within, behind⟩ := fair
  have some : m.total ≠ 0 := by omega
  have before := percent_full some within
  have now := percent_full (m := { m with done := m.done + 1 }) some more
  have grows := percent_grows m
  unfold advance
  dsimp only at now ⊢
  by_cases due : { m with done := m.done + 1 }.isDue = true
  · rw [if_pos due]
    refine ⟨⟨stepping, more, Nat.le_refl _⟩, ⟨_, rfl, ⟨by omega, now.1, fun less => ?_⟩, now.2⟩, rfl, rfl, rfl, rfl⟩
    simp only [isDue, Bool.and_eq_true, Bool.or_eq_true, decide_eq_true_eq] at due
    omega
  · rw [if_neg due]
    refine ⟨⟨stepping, more, by dsimp only; omega⟩, ?_, rfl, rfl, rfl, rfl⟩
    intro full
    simp only [isDue, Bool.and_eq_true, Bool.or_eq_true, decide_eq_true_eq, ne_eq] at due
    have hundred := now.2.2 full
    have short : m.percent ≠ 100 := fun same => by have := before.2.1 same; omega
    omega

end Meter

namespace DumpItem

variable (o : LoadOptions) (form : DumpForm)

def steps (m : Meter) : List DumpItem → List (DumpItem × List LoadEvent)
  | [] => []
  | item :: rest => (item, (item.harvest o form m).2.events) :: steps (item.harvest o form m).1 rest

theorem steps_items (m : Meter) (items : List DumpItem) : (steps o form m items).map Prod.fst = items := by
  induction items generalizing m with
  | nil => rfl
  | cons item rest ih => rw [steps, List.map_cons, ih]

theorem steps_take (m : Meter) (items : List DumpItem) (k : Nat) :
    (steps o form m items).take k = steps o form m (items.take k) := by
  induction items generalizing m k with
  | nil => rw [List.take_nil, steps, List.take_nil]
  | cons item rest ih =>
    cases k with
    | zero => rfl
    | succ k => rw [steps, List.take_succ_cons, List.take_succ_cons, steps, ih]

variable {o form}

theorem harvest_wanted {item : DumpItem} (wanted : item.isWanted o form = true) (m : Meter) :
    (item.harvest o form m).1 = m.advance.1 ∧
      (item.harvest o form m).2.events = m.advance.2.toList.map .progress := by
  cases item with
  | card e fields =>
    rw [harvest, if_pos wanted]
    exact ⟨rfl, rfl⟩
  | _ => cases wanted

theorem harvest_unwanted {item : DumpItem} (unwanted : item.isWanted o form = false) (m : Meter) :
    (item.harvest o form m).1 = m ∧ percents (item.harvest o form m).2.events = [] := by
  cases item with
  | card e fields =>
    rw [harvest, if_neg (by rw [unwanted]; decide)]
    exact ⟨rfl, rfl⟩
  | _ => exact ⟨rfl, rfl⟩

-- One item on: the meter stays fair, and what it tells climbs and is a hundred at the last record only.
theorem harvest_fair {m : Meter} {item : DumpItem} {rest : List DumpItem} (fair : m.Fair)
    (enough : m.done + (item :: rest).countP (isWanted o form) ≤ m.total) :
    let next := (item.harvest o form m).1
    let told := percents (item.harvest o form m).2.events
    (next.Fair ∧ next.total = m.total ∧ next.step = m.step ∧
      next.done + rest.countP (isWanted o form) = m.done + (item :: rest).countP (isWanted o form)) ∧
    (∀ ps, Climbs m.step next.reported ps → Climbs m.step m.reported (told ++ ps)) ∧
    (100 ∈ told ↔ item.isWanted o form = true ∧ next.done = m.total) := by
  dsimp only
  cases wanted : item.isWanted o form with
  | false =>
    obtain ⟨same, silent⟩ := harvest_unwanted wanted m
    rw [List.countP_cons_of_neg (by rw [wanted]; decide), same, silent]
    exact ⟨⟨fair, rfl, rfl, rfl⟩, fun _ climbs => climbs, by simp⟩
  | true =>
    obtain ⟨next, told⟩ := harvest_wanted wanted m
    rw [List.countP_cons_of_pos wanted] at enough
    obtain ⟨fairer, tells, total, done, step, reported⟩ := m.advance_fair fair (by omega)
    rw [List.countP_cons_of_pos wanted, next, told, total, done, step, reported]
    refine ⟨⟨fairer, rfl, rfl, by omega⟩, ?_⟩
    cases due : m.advance.2 with
    | none =>
      rw [due] at tells
      refine ⟨fun _ climbs => climbs, fun member => ?_, fun full => absurd full.2 tells⟩
      cases member
    | some p =>
      rw [due] at tells
      obtain ⟨n, rfl, climbs, full⟩ := tells
      refine ⟨fun _ later => ⟨climbs, later⟩, ?_⟩
      rw [← full]
      simp [percents, reports, LoadEvent.progress?, Progress.percent?, eq_comm]

theorem steps_climb {m : Meter} {items : List DumpItem} (fair : m.Fair)
    (enough : m.done + items.countP (isWanted o form) ≤ m.total) :
    Climbs m.step m.reported (percents ((steps o form m items).flatMap Prod.snd)) := by
  induction items generalizing m with
  | nil => trivial
  | cons item rest ih =>
    obtain ⟨⟨fairer, total, step, left⟩, climbs, _⟩ := harvest_fair fair enough
    rw [steps, List.flatMap_cons, percents_append]
    exact climbs _ (step ▸ ih fairer (by omega))

theorem steps_hundred {m : Meter} {items : List DumpItem} (fair : m.Fair)
    (total : m.done + items.countP (isWanted o form) = m.total) {front back : List (DumpItem × List LoadEvent)}
    {item : DumpItem} {told : List LoadEvent} (split : steps o form m items = front ++ (item, told) :: back) :
    100 ∈ percents told ↔ item.isWanted o form = true ∧ ∀ later ∈ back, later.1.isWanted o form = false := by
  induction items generalizing m front with
  | nil => simp [steps] at split
  | cons first rest ih =>
    obtain ⟨⟨fairer, same, _, left⟩, _, full⟩ := harvest_fair fair (Nat.le_of_eq total)
    cases front with
    | cons step front => exact ih fairer (by omega) (List.cons.inj split).2
    | nil =>
      obtain ⟨here, behind⟩ := List.cons.inj split
      obtain ⟨rfl, rfl⟩ := Prod.mk.inj here
      have none : (∀ later ∈ back, later.1.isWanted o form = false) ↔ rest.countP (isWanted o form) = 0 := by
        rw [← steps_items o form (first.harvest o form m).1 rest, behind, List.countP_eq_zero]
        simp
      rw [full, none]
      exact and_congr_right fun _ => by omega

variable (o form)

theorem gather_steps (stop : Option Nat) (told : Nat) (m : Meter) (items : List DumpItem) :
    ∃ k, (gather o form stop told m items).2.events = ((steps o form m items).take k).flatMap Prod.snd ∧
      ((gather o form stop told m items).1 = false → items.length ≤ k) := by
  induction items generalizing told m with
  | nil => exact ⟨0, rfl, fun _ => Nat.le_refl _⟩
  | cons item rest ih =>
    by_cases stopping : isTimeToStop stop told = true
    · refine ⟨0, ?_, ?_⟩
      · rw [gather, if_pos stopping]
        rfl
      · rw [gather, if_pos stopping]
        exact fun going => by cases going
    · obtain ⟨k, events, whole⟩ := ih (told + (item.harvest o form m).2.events.length) (item.harvest o form m).1
      rw [gather, if_neg stopping]
      refine ⟨k + 1, ?_, fun going => Nat.succ_le_succ (whole going)⟩
      rw [steps, List.take_succ_cons, List.flatMap_cons, ← events]
      rfl

end DumpItem

namespace Dump

variable (d : Dump) (o : LoadOptions)

theorem set_count (form : DumpForm) (key : String) (set : Json) :
    (((set.field? "cards").bind Json.items?).getD []).countP (fun card =>
        ((Fields.ofJson? card).map fun fields =>
          !o.needsMultiverseId || (Printing.multiverseId? form fields).isSome).getD false) =
      (DumpItem.ofSet key set).countP (DumpItem.isWanted o form) := by
  rw [Json.field?, DumpItem.ofSet, Fields.ofJson?]
  cases set.fields? with
  | none => rfl
  | some fields =>
    dsimp only [Option.bind_some, Fields.get?]
    rw [List.countP_cons_of_neg (by simp [DumpItem.isWanted]), List.countP_map]
    refine List.countP_congr fun card _ => ?_
    rw [Function.comp_apply, DumpItem.ofCard]
    cases Fields.ofJson? card <;> rfl

theorem record_count : d.recordCount o = d.items.countP (DumpItem.isWanted o d.form) := by
  rw [recordCount, records, items, List.countP_filterMap, List.countP_flatMap, List.countP_flatMap]
  exact congrArg List.sum (List.map_congr_left fun entry _ => set_count o d.form entry.1 entry.2)

def steps : List (DumpItem × List LoadEvent) := DumpItem.steps o d.form (d.meter o) d.items

theorem meter_fair : (d.meter o).Fair :=
  ⟨Nat.le_max_right _ _, Nat.zero_le _, Nat.zero_le _⟩

theorem load_course (stop : Option Nat) (told : Nat) :
    ∃ k, (d.load o stop told).1 =
        d.opening o ++ ((d.steps o).take k).flatMap Prod.snd ++
          (if (d.load o stop told).2.cancelled then [] else closing) ∧
      ((d.load o stop told).2.cancelled = false → d.items.length ≤ k) := by
  obtain ⟨k, events, whole⟩ := DumpItem.gather_steps o d.form stop (told + (d.opening o).length) (d.meter o) d.items
  refine ⟨k, ?_⟩
  rw [load]
  dsimp only
  generalize gather o d.form stop (told + (d.opening o).length) (d.meter o) d.items = course at *
  obtain ⟨stopped, h⟩ := course
  rw [steps, ← events]
  cases stopped with
  | true => exact ⟨(List.append_nil _).symm, fun kept => by cases kept⟩
  | false => exact ⟨rfl, fun _ => whole rfl⟩

theorem steps_climb (k : Nat) :
    Climbs (max o.progressStep.toNat 1) 0 (percents (((d.steps o).take k).flatMap Prod.snd)) := by
  have total : (d.meter o).total = d.items.countP (DumpItem.isWanted o d.form) := d.record_count o
  have fewer := (List.take_sublist k d.items).countP_le (p := DumpItem.isWanted o d.form)
  have start : (d.meter o).done = 0 := rfl
  rw [steps, DumpItem.steps_take]
  exact DumpItem.steps_climb (d.meter_fair o) (by omega)

theorem percents_climb (stop : Option Nat) (told : Nat) : ∃ ps, Climbs (max o.progressStep.toNat 1) 0 ps ∧
    percents (d.load o stop told).1 = (if d.recordCount o = 0 then ps else 0 :: ps) := by
  obtain ⟨k, events, _⟩ := d.load_course o stop told
  have opening : percents (d.opening o) = if d.recordCount o = 0 then [] else [0] := by
    have total : (d.meter o).total = d.recordCount o := rfl
    rw [Dump.opening, Meter.opening, total]
    split <;> rfl
  have climbs := d.steps_climb o k
  rw [events, List.append_assoc, percents_append, percents_append, opening]
  refine ⟨_, ?_, by split <;> rfl⟩
  split
  · rw [show percents [] = [] from rfl, List.append_nil]
    exact climbs
  · exact climbs_hundred climbs (by decide)

end Dump

namespace LoadReport

/-- The percentages a load tells never fall and stay within a hundred, each below a hundred a whole step
    above the one before; it opens with nothing, or with no percentage if no record is to be read. Of the
    items it comes to, the last record and no other is told with a hundred, and a load that is not
    stopped closes with a hundred. -/
theorem progress_climbs {root : Json} {d : Dump} (read : Dump.ofJson root = .ok d) (o : LoadOptions)
    (stop : Option Nat) :
    let events := (ofJson o stop root).events
    ((percents events).Pairwise (· ≤ ·) ∧ (∀ p ∈ percents events, p ≤ 100) ∧
      ∀ front p q back, percents events = front ++ p :: q :: back → q < 100 → p + max o.progressStep.toNat 1 ≤ q) ∧
    (reports events).head? = some (if d.recordCount o = 0 then .unknown else .percent 0) ∧
    (∃ outcome k, (ofJson o stop root).result = .ok outcome ∧
      events = d.opening o ++ ((d.steps o).take k).flatMap Prod.snd ++ (if outcome.cancelled then [] else closing) ∧
      (outcome.cancelled = false → d.items.length ≤ k ∧ events.getLast? = some (.progress (.percent 100)))) ∧
    (d.steps o).map Prod.fst = d.items ∧
    ∀ front item told back, d.steps o = front ++ (item, told) :: back →
      (100 ∈ percents told ↔
        item.isWanted o d.form = true ∧ ∀ later ∈ back, later.1.isWanted o d.form = false) := by
  have run : ofJson o stop root = ⟨(d.load o stop 0).1, .ok (d.load o stop 0).2⟩ := by
    rw [ofJson, ofJsonAfter, read]
    rfl
  obtain ⟨ps, climbs, told⟩ := d.percents_climb o stop 0
  obtain ⟨k, course, whole⟩ := d.load_course o stop 0
  dsimp only
  rw [run]
  dsimp only
  refine ⟨?_, ?_, ⟨_, k, rfl, course, fun kept => ⟨whole kept, ?_⟩⟩, DumpItem.steps_items o d.form _ _, ?_⟩
  · have sorted := climbs_sorted climbs
    have within := climbs_within climbs
    rw [told]
    split
    · refine ⟨(List.pairwise_cons.1 sorted).2, fun p member => (within p member).2, fun front p q back split => ?_⟩
      have behind : 0 :: ps = (0 :: front) ++ p :: q :: back := congrArg (List.cons 0) split
      exact climbs_steps climbs behind
    · refine ⟨sorted, List.forall_mem_cons.2 ⟨by decide, fun p member => (within p member).2⟩, ?_⟩
      exact fun front p q back split => climbs_steps climbs split
  · rw [course, List.append_assoc]
    rfl
  · rw [course, kept, List.getLast?_append]
    rfl
  · intro front item told back split
    have total : (d.meter o).done + d.items.countP (DumpItem.isWanted o d.form) = (d.meter o).total :=
      (Nat.zero_add _).trans (d.record_count o).symm
    exact DumpItem.steps_hundred (d.meter_fair o) total split

-- The third card has no multiverse id and is not asked for, so the second one is the last record.
theorem trenches_climb :
    let card (fields : Fields) : Json := .record (("name", .text "Trenches") :: fields)
    let root : Json := .record [("APC", .record [("cards", .list
      [card [("multiverseId", .integer 1)], .null, card [("multiverseId", .integer 2)], card []])])]
    let events := (ofJson .standard none root).events
    percents events = [0, 50, 100, 100] ∧ (percents events).Pairwise (· ≤ ·) ∧
      (reports events).head? = some (.percent 0) ∧ events.getLast? = some (.progress (.percent 100)) := by
  intro card root events
  have read : Dump.ofJson root = .ok (.ofSets .bare [("APC", .record [("cards", .list
      [card [("multiverseId", .integer 1)], .null, card [("multiverseId", .integer 2)], card []])])]) := rfl
  obtain ⟨⟨sorted, _, _⟩, first, ⟨outcome, k, result, _, closes⟩, _, _⟩ := progress_climbs read .standard none
  have kept : outcome.cancelled = false := by
    obtain rfl := Except.ok.inj result
    rfl
  exact ⟨by decide +kernel, sorted, first, (closes kept).2⟩

end LoadReport

end Deckwright
