import Deckwright.Dump.Load
set_option autoImplicit false

/- Where a load looks whether it is to stop is told by its course: every event of the whole load in order, and
   between them the looks, one before each set and each card. -/
namespace Deckwright

inductive Moment where
  | told (e : LoadEvent)
  | look

namespace Moment

def event? : Moment → Option LoadEvent
  | .told e => some e
  | .look => none

def events (ms : List Moment) : List LoadEvent := ms.filterMap event?

def LooksAfter (n k : Nat) (ms : List Moment) : Prop :=
  ∃ front back, ms = front ++ .look :: back ∧ n ≤ k + (events front).length

theorem events_append (ms ns : List Moment) : events (ms ++ ns) = events ms ++ events ns := List.filterMap_append

theorem events_told (es : List LoadEvent) : events (es.map .told) = es := by
  simp [events, List.filterMap_map, Function.comp_def, event?]

theorem looks_after_nil {n k : Nat} : ¬ LooksAfter n k [] := by
  rintro ⟨front, back, split, _⟩
  simp at split

theorem looks_after_look {n k : Nat} {ms : List Moment} :
    LooksAfter n k (.look :: ms) ↔ n ≤ k ∨ LooksAfter n k ms := by
  constructor
  · rintro ⟨front, back, split, late⟩
    cases front with
    | nil => exact .inl late
    | cons first rest =>
      obtain ⟨rfl, rfl⟩ := List.cons.inj split
      exact .inr ⟨rest, back, rfl, late⟩
  · rintro (late | ⟨front, back, rfl, late⟩)
    · exact ⟨[], ms, rfl, late⟩
    · exact ⟨.look :: front, back, rfl, late⟩

theorem looks_after_told {n k : Nat} {e : LoadEvent} {ms : List Moment} :
    LooksAfter n k (.told e :: ms) ↔ LooksAfter n (k + 1) ms := by
  have more (front : List Moment) : k + (events (.told e :: front)).length = k + 1 + (events front).length := by
    simp [events, event?]
    omega
  constructor
  · rintro ⟨front, back, split, late⟩
    cases front with
    | nil => cases split
    | cons first rest =>
      obtain ⟨rfl, rfl⟩ := List.cons.inj split
      exact ⟨rest, back, rfl, more rest ▸ late⟩
  · rintro ⟨front, back, rfl, late⟩
    exact ⟨.told e :: front, back, rfl, (more front).symm ▸ late⟩

theorem looks_after_events {n k : Nat} {ms : List Moment} (es : List LoadEvent) :
    LooksAfter n k (es.map .told ++ ms) ↔ LooksAfter n (k + es.length) ms := by
  induction es generalizing k with
  | nil => rfl
  | cons e rest ih =>
    rw [List.map_cons, List.cons_append, looks_after_told, ih, List.length_cons, Nat.add_assoc, Nat.add_comm 1]

theorem looks_after_ending {n k : Nat} {ms : List Moment} (es : List LoadEvent) :
    LooksAfter n k (ms ++ es.map .told) ↔ LooksAfter n k ms := by
  induction ms generalizing k with
  | nil =>
    have silent : LooksAfter n k (es.map .told ++ []) ↔ LooksAfter n (k + es.length) [] := looks_after_events es
    rw [List.append_nil] at silent
    rw [List.nil_append, silent]
    exact ⟨fun looks => (looks_after_nil looks).elim, fun looks => (looks_after_nil looks).elim⟩
  | cons m rest ih =>
    cases m with
    | told e => rw [List.cons_append, looks_after_told, looks_after_told, ih]
    | look => rw [List.cons_append, looks_after_look, looks_after_look, ih]

end Moment

open Moment (LooksAfter)

namespace DumpItem

def course (o : LoadOptions) (form : DumpForm) (m : Meter) : List DumpItem → List Moment
  | [] => []
  | item :: rest =>
    let (next, h) := item.harvest o form m
    .look :: (h.events.map .told ++ course o form next rest)

variable (o : LoadOptions) (form : DumpForm) (m : Meter) (items : List DumpItem) (told : Nat)

theorem gather_never (before : Nat) : gather o form none told m items = gather o form none before m items ∧
    (gather o form none told m items).1 = false := by
  induction items generalizing m told before with
  | nil => exact ⟨rfl, rfl⟩
  | cons item rest ih =>
    obtain ⟨same, going⟩ := ih (item.harvest o form m).1 (told + (item.harvest o form m).2.events.length)
      (before + (item.harvest o form m).2.events.length)
    refine ⟨?_, going⟩
    simp only [gather, isTimeToStop, Option.any_none, Bool.false_eq_true, if_false, same]

theorem gather_events : (gather o form none told m items).2.events = Moment.events (course o form m items) := by
  induction items generalizing m told with
  | nil => rfl
  | cons item rest ih =>
    have shape : Moment.events (course o form m (item :: rest)) =
        (item.harvest o form m).2.events ++ Moment.events (course o form (item.harvest o form m).1 rest) := by
      have split := Moment.events_append ((item.harvest o form m).2.events.map .told)
        (course o form (item.harvest o form m).1 rest)
      rw [Moment.events_told] at split
      exact split
    rw [shape, ← ih _ (told + (item.harvest o form m).2.events.length)]
    rfl

theorem gather_stopped (n : Nat) :
    (gather o form (some n) told m items).1 = true ↔ LooksAfter n told (course o form m items) := by
  induction items generalizing m told with
  | nil =>
    refine ⟨fun stopped => ?_, fun looks => (Moment.looks_after_nil looks).elim⟩
    cases stopped
  | cons item rest ih =>
    rw [course, Moment.looks_after_look, Moment.looks_after_events, ← ih, gather]
    by_cases now : n ≤ told
    · simp [isTimeToStop, now]
    · simp [isTimeToStop, now]

theorem gather_cut (n before : Nat) :
    (gather o form (some n) told m items).2.events <+: (gather o form none before m items).2.events ∧
      ((gather o form (some n) told m items).1 = false →
        gather o form (some n) told m items = gather o form none before m items) := by
  induction items generalizing m told before with
  | nil => exact ⟨List.prefix_rfl, fun _ => rfl⟩
  | cons item rest ih =>
    obtain ⟨shorter, whole⟩ := ih (item.harvest o form m).1 (told + (item.harvest o form m).2.events.length)
      (before + (item.harvest o form m).2.events.length)
    by_cases now : n ≤ told
    · have stop : gather o form (some n) told m (item :: rest) = (true, .empty) := by
        simp [gather, isTimeToStop, now]
      rw [stop]
      exact ⟨List.nil_prefix, fun going => by cases going⟩
    · have go (stop : Option Nat) (count : Nat) (passed : isTimeToStop stop count = false) :
          gather o form stop count m (item :: rest) =
            ((gather o form stop (count + (item.harvest o form m).2.events.length)
                (item.harvest o form m).1 rest).1,
              (item.harvest o form m).2 ++ (gather o form stop (count + (item.harvest o form m).2.events.length)
                (item.harvest o form m).1 rest).2) := by
        rw [gather, passed]
        rfl
      rw [go (some n) told (by simp [isTimeToStop, now]), go none before rfl]
      refine ⟨(List.prefix_append_right_inj _).2 shorter, fun going => ?_⟩
      rw [whole going]

end DumpItem

namespace Dump

def course (d : Dump) (o : LoadOptions) : List Moment :=
  (d.opening o).map .told ++ DumpItem.course o d.form (d.meter o) d.items ++ closing.map .told

variable (d : Dump) (o : LoadOptions)

theorem load_events : Moment.events (d.course o) = (d.load o none 0).1 := by
  have going := (DumpItem.gather_never o d.form (d.meter o) d.items (0 + (d.opening o).length) 0).2
  have events := DumpItem.gather_events o d.form (d.meter o) d.items (0 + (d.opening o).length)
  rw [course, Moment.events_append, Moment.events_append, Moment.events_told, Moment.events_told, ← events, load]
  dsimp only
  rw [going]
  rfl

theorem load_stopped (n : Nat) :
    (LooksAfter n 0 (d.course o) → (d.load o (some n) 0).2 = .stopped) ∧
      (¬ LooksAfter n 0 (d.course o) → d.load o (some n) 0 = d.load o none 0) ∧
      (d.load o (some n) 0).1 <+: (d.load o none 0).1 := by
  have going := (DumpItem.gather_never o d.form (d.meter o) d.items (0 + (d.opening o).length) 0).2
  have stopped := DumpItem.gather_stopped o d.form (d.meter o) d.items (0 + (d.opening o).length) n
  obtain ⟨shorter, whole⟩ := DumpItem.gather_cut o d.form (d.meter o) d.items (0 + (d.opening o).length) n
    (0 + (d.opening o).length)
  have looks : LooksAfter n 0 (d.course o) ↔
      LooksAfter n (0 + (d.opening o).length) (DumpItem.course o d.form (d.meter o) d.items) := by
    rw [course, Moment.looks_after_ending, Moment.looks_after_events]
  rw [looks, ← stopped, load, load]
  dsimp only
  rw [going]
  generalize gather o d.form none (0 + (d.opening o).length) (d.meter o) d.items = all at *
  generalize gather o d.form (some n) (0 + (d.opening o).length) (d.meter o) d.items = cut at *
  obtain ⟨flag, h⟩ := cut
  cases flag with
  | true =>
    refine ⟨fun _ => rfl, fun out => (out rfl).elim, ?_⟩
    change d.opening o ++ h.events <+: d.opening o ++ all.2.events ++ closing
    rw [List.append_assoc]
    exact (List.prefix_append_right_inj _).2 (shorter.trans (List.prefix_append _ _))
  | false =>
    obtain rfl := whole rfl
    exact ⟨fun out => (Bool.false_ne_true out).elim, fun _ => rfl, List.prefix_rfl⟩

theorem load_kept : (d.load o none 0).2.cancelled = false := by
  have going := (DumpItem.gather_never o d.form (d.meter o) d.items (0 + (d.opening o).length) 0).2
  rw [load]
  dsimp only
  rw [going]
  rfl

end Dump

namespace LoadReport

def course (o : LoadOptions) (root : Json) : List Moment :=
  match Dump.ofJson root with
  | .error _ => []
  | .ok d => d.course o

/-- A load that is to stop when n events are told either comes out empty and marked as stopped or is the
    whole load. It is stopped just when a look is still to come then, and it tells no other events. -/
theorem stopped_or_whole (o : LoadOptions) (n : Nat) (root : Json) :
    Moment.events (course o root) = (ofJson o none root).events ∧
      (ofJson o (some n) root).events <+: (ofJson o none root).events ∧
      ((ofJson o (some n) root).result = .ok ⟨.empty, [], true⟩ ↔ LooksAfter n 0 (course o root)) ∧
      (¬ LooksAfter n 0 (course o root) → ofJson o (some n) root = ofJson o none root) ∧
      ∀ outcome, (ofJson o none root).result = .ok outcome → outcome.cancelled = false := by
  unfold course ofJson ofJsonAfter
  cases Dump.ofJson root with
  | error m =>
    refine ⟨rfl, List.prefix_rfl, ⟨fun failed => ?_, fun looks => ?_⟩, fun _ => rfl, fun outcome failed => ?_⟩
    · cases failed
    · exact (Moment.looks_after_nil looks).elim
    · cases failed
  | ok d =>
    obtain ⟨stopped, whole, shorter⟩ := d.load_stopped o n
    have kept := d.load_kept o
    refine ⟨d.load_events o, shorter, ⟨fun cut => ?_, fun looks => ?_⟩, fun late => ?_, fun outcome same => ?_⟩
    · by_cases looks : LooksAfter n 0 (d.course o)
      · exact looks
      · have outcome : (d.load o (some n) 0).2 = ⟨.empty, [], true⟩ := Except.ok.inj cut
        rw [whole looks] at outcome
        rw [outcome] at kept
        cases kept
    · exact congrArg Except.ok (stopped looks)
    · dsimp only
      rw [List.length_nil, whole late]
    · obtain rfl := Except.ok.inj same
      exact kept

end LoadReport

end Deckwright
