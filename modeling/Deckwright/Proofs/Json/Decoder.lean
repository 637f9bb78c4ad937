import Deckwright.Proofs.Json.Grammar
set_option autoImplicit false

namespace Deckwright.Json

mutual

def depth : Json → Nat
  | .list items => itemsDepth items + 1
  | .record fields => fieldsDepth fields + 1
  | _ => 0

def itemsDepth : List Json → Nat
  | [] => 0
  | j :: rest => max (depth j) (itemsDepth rest)

def fieldsDepth : List (String × Json) → Nat
  | [] => 0
  | (_, j) :: rest => max (depth j) (fieldsDepth rest)

end

theorem items_depth {items : List Json} {n : Nat} : itemsDepth items ≤ n ↔ ∀ j ∈ items, j.depth ≤ n := by
  induction items with
  | nil => simp [itemsDepth]
  | cons j rest ih => rw [itemsDepth, Nat.max_le, ih, List.forall_mem_cons]

theorem fields_depth {fields : List (String × Json)} {n : Nat} :
    fieldsDepth fields ≤ n ↔ ∀ e ∈ fields, e.2.depth ≤ n := by
  induction fields with
  | nil => simp [fieldsDepth]
  | cons e rest ih => rw [fieldsDepth, Nat.max_le, ih, List.forall_mem_cons]

theorem texts_depth (ss : List String) : (texts ss).depth = 1 := by
  have flat : itemsDepth (ss.map Json.text) ≤ 0 := by
    refine items_depth.2 fun j member => ?_
    obtain ⟨s, _, rfl⟩ := List.mem_map.1 member
    exact Nat.le_refl 0
  rw [texts, depth, Nat.le_zero.1 flat]

namespace Read

theorem value_list (levels : Nat) (items : List Draft) (closed : Bool) :
    value levels (.list items closed) =
      openLevel levels fun inside => (valueItems inside items).bind fun js => ended closed (.list js) := by
  cases levels with
  | zero => rfl
  | succ inside =>
    rw [value, openLevel]
    cases valueItems inside items <;> rfl

theorem value_record (levels : Nat) (fields : List (Option String × Draft)) (closed : Bool) :
    value levels (.record fields closed) =
      openLevel levels fun inside => (valueFields inside fields).bind fun fs => ended closed (.record fs) := by
  cases levels with
  | zero => rfl
  | succ inside =>
    rw [value, openLevel]
    cases valueFields inside fields <;> rfl

theorem items_chain (levels : Nat) (d : Draft) (rest : List Draft) :
    valueItems levels (d :: rest) = (value levels d).bind fun j => (valueItems levels rest).map (j :: ·) := by
  rw [valueItems]
  cases value levels d <;> rfl

theorem fields_chain (levels : Nat) (key : String) (d : Draft) (rest : List (Option String × Draft)) :
    valueFields levels ((some key, d) :: rest) =
      (value levels d).bind fun j => (valueFields levels rest).map ((key, j) :: ·) := by
  rw [valueFields]
  cases value levels d <;> rfl

theorem all_chain {α : Type} (read : Reader α) (levels : Nat) (d : Draft) (rest : List Draft) :
    readAll read levels (d :: rest) = (read levels d).bind fun a => (readAll read levels rest).map (a :: ·) := by
  rw [readAll]
  cases read levels d <;> rfl

theorem list_chain {α : Type} (read : Reader α) (levels : Nat) (items : List Draft) (closed : Bool) :
    list read levels (.list items closed) =
      openLevel levels fun inside => (readAll read inside items).bind fun as => ended closed as := by
  rw [list]
  congr 1
  funext inside
  cases readAll read inside items <;> rfl

theorem entry_chain {α : Type} (read : Reader α) (levels : Nat) (key : String) (d : Draft)
    (rest : List (Option String × Draft)) :
    readEntries read levels ((some key, d) :: rest) =
      (read levels d).bind fun a => (readEntries read levels rest).map ((key, a) :: ·) := by
  rw [readEntries]
  cases read levels d <;> rfl

theorem entries_chain {α : Type} (read : Reader α) (levels : Nat) (fields : List (Option String × Draft)) (closed : Bool) :
    entries read levels (.record fields closed) =
      openLevel levels fun inside => (readEntries read inside fields).bind fun es => ended closed es := by
  rw [entries]
  congr 1
  funext inside
  cases readEntries read inside fields <;> rfl

theorem fill_chain {σ : Type} {slots : List (Slot σ)} {levels : Nat} {s : σ} {key : String} {slot : Slot σ}
    (found : (slots.find? fun slot => slot.key = key) = some slot) (fresh : slot.filled s = false) (d : Draft)
    (rest : List (Option String × Draft)) :
    fillFields slots levels s ((some key, d) :: rest) =
      (slot.fill levels d s).bind fun s => fillFields slots levels s rest := by
  rw [fillFields, found]
  dsimp only
  rw [if_neg (by simp [fresh])]
  cases slot.fill levels d s <;> rfl

theorem record_chain {σ α : Type} (slots : List (Slot σ)) (start : σ) (finish : Bool → σ → Option α) (levels : Nat)
    (fields : List (Option String × Draft)) :
    record slots start finish levels (.record fields true) =
      openLevel levels fun inside => (fillFields slots inside start fields).bind fun s =>
        match finish true s with
        | some a => .ok a
        | none => .error .mismatch := by
  rw [record]
  congr 1
  funext inside
  cases fillFields slots inside start fields <;> rfl

def within {α : Type} (deep levels : Nat) (a : α) : Except Fault α :=
  if deep ≤ levels then .ok a else .error .malformed

theorem within_bind {α β : Type} {deep more levels : Nat} {a : α} {b : β} {next : α → Except Fault β}
    (later : next a = within more levels b) : (within deep levels a).bind next = within (max deep more) levels b := by
  by_cases first : deep ≤ levels
  · rw [within, if_pos first, Except.bind, later, within, within]
    by_cases second : more ≤ levels
    · rw [if_pos second, if_pos (Nat.max_le.2 ⟨first, second⟩)]
    · rw [if_neg second, if_neg fun both => second (Nat.max_le.1 both).2]
  · rw [within, within, if_neg first, if_neg fun both => first (Nat.max_le.1 both).1]
    rfl

theorem within_done {α β : Type} {deep levels : Nat} {a : α} {b : β} {next : α → Except Fault β}
    (done : next a = .ok b) : (within deep levels a).bind next = within deep levels b := by
  rw [within_bind (done.trans (if_pos (Nat.zero_le levels)).symm), Nat.max_zero]

theorem within_map {α β : Type} (deep levels : Nat) (a : α) (f : α → β) :
    (within deep levels a).map f = within deep levels (f a) := by
  by_cases fits : deep ≤ levels
  · rw [within, within, if_pos fits, if_pos fits]
    rfl
  · rw [within, within, if_neg fits, if_neg fits]
    rfl

theorem within_level {α : Type} {deep : Nat} {a : α} {inner : Nat → Except Fault α}
    (read : ∀ inside, inner inside = within deep inside a) (levels : Nat) :
    openLevel levels inner = within (deep + 1) levels a := by
  cases levels with
  | zero => rfl
  | succ inside =>
    rw [openLevel, read, within, within]
    by_cases fits : deep ≤ inside
    · rw [if_pos fits, if_pos (Nat.succ_le_succ fits)]
    · rw [if_neg fits, if_neg fun more => fits (Nat.le_of_succ_le_succ more)]

mutual

theorem value_drafted (j : Json) (levels : Nat) : value levels (drafted j) = within j.depth levels j := by
  cases j with
  | list items =>
    rw [drafted, value_list]
    refine within_level (fun inside => ?_) levels
    rw [items_drafted items inside]
    exact within_done rfl
  | record fields =>
    rw [drafted, value_record]
    refine within_level (fun inside => ?_) levels
    rw [fields_drafted fields inside]
    exact within_done rfl
  | _ => rfl

theorem items_drafted (items : List Json) (levels : Nat) :
    valueItems levels (draftedItems items) = within (itemsDepth items) levels items := by
  cases items with
  | nil => rfl
  | cons j rest =>
    rw [draftedItems, items_chain, value_drafted j levels]
    refine within_bind ?_
    rw [items_drafted rest levels, within_map]

theorem fields_drafted (fields : List (String × Json)) (levels : Nat) :
    valueFields levels (draftedFields fields) = within (fieldsDepth fields) levels fields := by
  cases fields with
  | nil => rfl
  | cons field rest =>
    obtain ⟨key, j⟩ := field
    rw [draftedFields, fields_chain, value_drafted j levels]
    refine within_bind ?_
    rw [fields_drafted rest levels, within_map]

end

-- A reader that takes a value for what was written as it.
def Reads {α : Type} (read : Reader α) (j : Json) (a : α) : Prop :=
  ∀ levels, read levels (drafted j) = within j.depth levels a

theorem reads_text (s : String) : Reads text (.text s) s := fun _ => rfl

theorem reads_bool (b : Bool) : Reads bool (.bool b) b := fun _ => rfl

theorem reads_word32 (n : UInt32) : Reads word32 (.ofNat n.toNat) n := by
  intro levels
  have size := n.toNat_lt
  have small : (n.toNat : Int) ≤ (0xFFFFFFFF : Nat) := by omega
  have read : natural 0xFFFFFFFF levels (drafted (.ofNat n.toNat)) = .ok n.toNat := by
    rw [ofNat, drafted, natural, if_pos (by simpa using small), Int.toNat_natCast]
  rw [word32, read]
  exact congrArg Except.ok UInt32.ofNat_toNat

theorem reads_all {α : Type} {read : Reader α} {write : α → Json} {as : List α}
    (each : ∀ a ∈ as, Reads read (write a) a) (levels : Nat) :
    readAll read levels (draftedItems (as.map write)) = within (itemsDepth (as.map write)) levels as := by
  induction as with
  | nil => rfl
  | cons a as ih =>
    rw [List.map_cons, draftedItems, all_chain, each a (by simp)]
    refine within_bind ?_
    rw [ih fun b here => each b (List.mem_cons_of_mem a here), within_map]

theorem reads_list {α : Type} {read : Reader α} {write : α → Json} {as : List α}
    (each : ∀ a ∈ as, Reads read (write a) a) : Reads (list read) (.list (as.map write)) as := by
  intro levels
  rw [drafted, list_chain]
  refine within_level (fun inside => ?_) levels
  rw [reads_all each]
  exact within_done rfl

theorem reads_texts (ss : List String) : Reads (list text) (texts ss) ss := reads_list fun s _ => reads_text s

theorem reads_each_entry {α : Type} {read : Reader α} {write : α → Json} {es : List (String × α)}
    (each : ∀ e ∈ es, Reads read (write e.2) e.2) (levels : Nat) :
    readEntries read levels (draftedFields (es.map fun e => (e.1, write e.2))) =
      within (fieldsDepth (es.map fun e => (e.1, write e.2))) levels es := by
  induction es with
  | nil => rfl
  | cons e es ih =>
    rw [List.map_cons, draftedFields, entry_chain, each e (by simp)]
    refine within_bind ?_
    rw [ih fun f here => each f (List.mem_cons_of_mem e here), within_map]

theorem reads_entries {α : Type} {read : Reader α} {write : α → Json} {es : List (String × α)}
    (each : ∀ e ∈ es, Reads read (write e.2) e.2) :
    Reads (entries read) (.record (es.map fun e => (e.1, write e.2))) es := by
  intro levels
  rw [drafted, entries_chain]
  refine within_level (fun inside => ?_) levels
  rw [reads_each_entry each]
  exact within_done rfl

def Fills {σ : Type} (slots : List (Slot σ)) (s : σ) (fields : List (String × Json)) (t : σ) : Prop :=
  ∀ levels, fillFields slots levels s (draftedFields fields) = within (fieldsDepth fields) levels t

theorem fills_none {σ : Type} (slots : List (Slot σ)) (s : σ) : Fills slots s [] s := fun _ => rfl

theorem fills_next {σ α : Type} {slots : List (Slot σ)} {s t : σ} {key : String} {get : σ → Option α} {set : σ → α → σ}
    {read : Reader α} {j : Json} {a : α} {rest : List (String × Json)} (reads : Reads read j a)
    (found : (slots.find? fun slot => slot.key = key) = some (slot key get set read)) (fresh : get s = none)
    (others : Fills slots (set s a) rest t) : Fills slots s ((key, j) :: rest) t := by
  intro levels
  have unfilled : (slot key get set read).filled s = false := by
    dsimp only [slot]
    rw [fresh]
    rfl
  rw [draftedFields, fill_chain found unfilled]
  dsimp only [slot]
  rw [reads, within_map]
  exact within_bind (others levels)

theorem reads_record {σ α : Type} {slots : List (Slot σ)} {start t : σ} {finish : Bool → σ → Option α}
    {fields : List (String × Json)} {a : α} (fills : Fills slots start fields t) (finished : finish true t = some a) :
    Reads (record slots start finish) (.record fields) a := by
  intro levels
  rw [drafted, record_chain]
  refine within_level (fun inside => ?_) levels
  rw [fills]
  exact within_done (by rw [finished])

section Takes

def given {α : Type} (sound : Bool) (a : α) : Except Fault α := if sound then .ok a else .error .mismatch

theorem given_bind {α β : Type} {sound more : Bool} {a : α} {b : β} {next : α → Except Fault β}
    (later : next a = given more b) : (given sound a).bind next = given (sound && more) b := by
  cases sound with
  | true => exact later
  | false => rfl

theorem given_done {α β : Type} {sound : Bool} {a : α} {b : β} {next : α → Except Fault β} (done : next a = .ok b) :
    (given sound a).bind next = given sound b := by
  have later : next a = given true b := done
  rw [given_bind later, Bool.and_true]

theorem given_map {α β : Type} (sound : Bool) (a : α) (f : α → β) : (given sound a).map f = given sound (f a) := by
  cases sound <;> rfl

theorem given_level {α : Type} {deep : Nat} {sound : Bool} {a : α} {inner : Nat → Except Fault α}
    (read : ∀ inside, deep ≤ inside → inner inside = given sound a) (levels : Nat) (fits : deep + 1 ≤ levels) :
    openLevel levels inner = given sound a := by
  obtain ⟨inside, rfl⟩ := Nat.exists_eq_add_of_le' fits
  exact read (inside + deep) (Nat.le_add_left deep inside)

-- A reader that is deep enough for a value and takes it, or refuses it for what it is.
def Takes {α : Type} (read : Reader α) (j : Json) (sound : Bool) (a : α) : Prop :=
  ∀ levels, j.depth ≤ levels → read levels (drafted j) = given sound a

theorem takes_of_reads {α : Type} {read : Reader α} {j : Json} {a : α} (reads : Reads read j a) : Takes read j true a := by
  intro levels fits
  rw [reads, within, if_pos fits]
  rfl

theorem takes_binary64 (x : Binary64) : Takes binary64 (.ofBinary64 x) x.isFinite x := by
  intro levels _
  rw [ofBinary64]
  cases x.isFinite <;> rfl

theorem takes_optional {α : Type} {read : Reader α} {write : α → Json} {sound : α → Bool} {o : Option α}
    (shown : ∀ a ∈ o, drafted (write a) ≠ .null) (each : ∀ a ∈ o, Takes read (write a) (sound a) a) :
    Takes (optional read) (ofOption write o) (o.all sound) o := by
  intro levels fits
  cases o with
  | none => rfl
  | some a =>
    have taken := each a rfl levels fits
    have given := shown a rfl
    rw [ofOption, optional]
    · rw [taken, given_map]
      rfl
    · exact given

theorem takes_all {α : Type} {read : Reader α} {write : α → Json} {sound : α → Bool} {as : List α}
    (each : ∀ a ∈ as, Takes read (write a) (sound a) a) (levels : Nat) (fits : itemsDepth (as.map write) ≤ levels) :
    readAll read levels (draftedItems (as.map write)) = given (as.all sound) as := by
  induction as with
  | nil => rfl
  | cons a as ih =>
    rw [List.map_cons, itemsDepth, Nat.max_le] at fits
    rw [List.map_cons, draftedItems, all_chain, each a (by simp) levels fits.1, List.all_cons]
    refine given_bind ?_
    rw [ih (fun b here => each b (List.mem_cons_of_mem a here)) fits.2, given_map]

theorem takes_list {α : Type} {read : Reader α} {write : α → Json} {sound : α → Bool} {as : List α}
    (each : ∀ a ∈ as, Takes read (write a) (sound a) a) : Takes (list read) (.list (as.map write)) (as.all sound) as := by
  intro levels fits
  rw [drafted, list_chain]
  refine given_level (fun inside enough => ?_) levels fits
  rw [takes_all each inside enough]
  exact given_done rfl

def TakesFields {σ : Type} (slots : List (Slot σ)) (s : σ) (fields : List (String × Json)) (sound : Bool) (t : σ) : Prop :=
  ∀ levels, fieldsDepth fields ≤ levels → fillFields slots levels s (draftedFields fields) = given sound t

theorem takes_none {σ : Type} (slots : List (Slot σ)) (s : σ) : TakesFields slots s [] true s := fun _ _ => rfl

theorem takes_next {σ α : Type} {slots : List (Slot σ)} {s t : σ} {key : String} {get : σ → Option α} {set : σ → α → σ}
    {read : Reader α} {j : Json} {a : α} {rest : List (String × Json)} {sound more : Bool} (takes : Takes read j sound a)
    (found : (slots.find? fun slot => slot.key = key) = some (slot key get set read)) (fresh : get s = none)
    (others : TakesFields slots (set s a) rest more t) : TakesFields slots s ((key, j) :: rest) (sound && more) t := by
  intro levels fits
  rw [fieldsDepth, Nat.max_le] at fits
  have unfilled : (slot key get set read).filled s = false := by
    dsimp only [slot]
    rw [fresh]
    rfl
  rw [draftedFields, fill_chain found unfilled]
  dsimp only [slot]
  rw [takes levels fits.1, given_map]
  exact given_bind (others levels fits.2)

theorem takes_read {σ α : Type} {slots : List (Slot σ)} {s t : σ} {key : String} {get : σ → Option α} {set : σ → α → σ}
    {read : Reader α} {j : Json} {a : α} {rest : List (String × Json)} {more : Bool} (reads : Reads read j a)
    (found : (slots.find? fun slot => slot.key = key) = some (slot key get set read)) (fresh : get s = none)
    (others : TakesFields slots (set s a) rest more t) : TakesFields slots s ((key, j) :: rest) more t :=
  takes_next (takes_of_reads reads) found fresh others

theorem takes_record {σ α : Type} {slots : List (Slot σ)} {start t : σ} {finish : Bool → σ → Option α}
    {fields : List (String × Json)} {sound : Bool} {a : α} (fills : TakesFields slots start fields sound t)
    (finished : finish true t = some a) : Takes (record slots start finish) (.record fields) sound a := by
  intro levels fits
  rw [drafted, record_chain]
  refine given_level (fun inside enough => ?_) levels fits
  rw [fills inside enough]
  exact given_done (by rw [finished])

end Takes

end Read

end Deckwright.Json
