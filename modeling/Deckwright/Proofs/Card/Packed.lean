import Deckwright.Card.Packed
import Deckwright.Proofs.Ordered
import Deckwright.Proofs.Text.Utf8
set_option autoImplicit false

/- That a value is read back and that no part of its octets is taken for a value are shown together for each
   reader, since a reader in a chain is given the beginning of the next value only when it has had all of its own. -/
namespace Deckwright.Packed

open Text (Octets)

/-- The octets stand for the value: it is read off their front, and off no part of them. -/
structure Codes {α : Type} (get : Reader α) (s : Octets) (a : α) : Prop where
  whole : ∀ rest, get (s ++ rest) = .ok (a, rest)
  short : ∀ n < s.length, get (s.take n) = .error .endOfInput

-- Lengths are written as words of 64 bits, and none within is greater than that of the whole.
def Measured (s : Octets) : Prop := s.length < UInt64.size

def Packs {α : Type} (get : Reader α) (s : Octets) (a : α) : Prop := Measured s → Codes get s a

section Chains

variable {α β : Type} {get : Reader α} {next : α → Reader β} {s t : Octets} {a : α} {b : β}

theorem bind_read {rest : Octets} (read : get s = .ok (a, rest)) : (get >>= next) s = next a rest := by
  change Reader.bind get next s = next a rest
  rw [Reader.bind, read]

theorem bind_fault {e : Fault} (fault : get s = .error e) : (get >>= next) s = .error e := by
  change Reader.bind get next s = .error e
  rw [Reader.bind, fault]

theorem Codes.bind (first : Codes get s a) (later : Codes (next a) t b) : Codes (get >>= next) (s ++ t) b where
  whole rest := by
    rw [List.append_assoc, bind_read (first.whole (t ++ rest))]
    exact later.whole rest
  short n less := by
    rw [List.take_append]
    by_cases within : n < s.length
    · rw [Nat.sub_eq_zero_of_le (Nat.le_of_lt within), List.take_zero, List.append_nil]
      exact bind_fault (first.short n within)
    · rw [List.length_append] at less
      rw [List.take_of_length_le (Nat.le_of_not_lt within), bind_read (first.whole _)]
      exact later.short _ (by omega)

theorem codes_pure (a : α) : Codes (pure a) [] a where
  whole _ := rfl
  short n less := absurd less (Nat.not_lt_zero n)

theorem Codes.last (first : Codes get s a) (later : Codes (next a) [] b) : Codes (get >>= next) s b := by
  have chain := first.bind later
  rwa [List.append_nil] at chain

theorem Packs.bind (first : Packs get s a) (later : Packs (next a) t b) : Packs (get >>= next) (s ++ t) b := by
  intro measured
  rw [Measured, List.length_append] at measured
  have front : Measured s := by rw [Measured]; omega
  have back : Measured t := by rw [Measured]; omega
  exact (first front).bind (later back)

theorem Packs.last (first : Packs get s a) (later : Codes (next a) [] b) : Packs (get >>= next) s b :=
  fun measured => (first measured).last later

end Chains

section Words

theorem codes_octet (b : UInt8) : Codes Reader.octet [b] b where
  whole _ := rfl
  short n less := by
    rw [List.length_singleton, Nat.lt_one_iff] at less
    rw [less]
    rfl

theorem codes_octets (s : Octets) : Codes (Reader.octets s.length) s s where
  whole rest := by
    rw [Reader.octets, if_pos (by simp), List.take_left, List.drop_left]
  short n less := by
    rw [Reader.octets, if_neg (by rw [List.length_take]; omega)]

theorem little_endian_length (width n : Nat) : (littleEndian width n).length = width := by
  induction width generalizing n with
  | zero => rfl
  | succ width ih => rw [littleEndian, List.length_cons, ih]

theorem of_little_endian {width n : Nat} (small : n < Nat.pow 256 width) :
    Reader.ofLittleEndian (littleEndian width n) = n := by
  induction width generalizing n with
  | zero =>
    rw [Nat.pow_eq, Nat.pow_zero, Nat.lt_one_iff] at small
    exact small.symm
  | succ width ih =>
    have rest : n / 256 < Nat.pow 256 width := by
      rw [Nat.pow_eq, Nat.pow_succ] at small
      rw [Nat.pow_eq]
      exact Nat.div_lt_of_lt_mul (by omega)
    have low : (UInt8.ofNat (n % 256)).toNat = n % 256 := by
      rw [UInt8.toNat_ofNat']
      exact Nat.mod_eq_of_lt (Nat.mod_lt n (by decide))
    rw [littleEndian, Reader.ofLittleEndian, ih rest, low, Nat.mod_add_div]

theorem codes_word {width n : Nat} (small : n < Nat.pow 256 width) : Codes (Reader.word width) (littleEndian width n) n := by
  have octets := codes_octets (littleEndian width n)
  rw [little_endian_length] at octets
  refine octets.last ?_
  rw [of_little_endian small]
  exact codes_pure n

theorem codes_word64 {n : Nat} (small : n < UInt64.size) : Codes Reader.word64 (word64 n) n := codes_word small

theorem codes_word32 (n : UInt32) : Codes Reader.word32 (word32 n.toNat) n.toNat := codes_word n.toNat_lt

theorem codes_flag (b : Bool) : Codes Reader.flag (flag b) b := by
  cases b with
  | false => exact (codes_octet 0).last (codes_pure false)
  | true => exact (codes_octet 1).last (codes_pure true)

theorem codes_number (x : Binary64) : Codes Reader.number (number x) x := by
  refine (codes_word64 x.bits.toNat_lt).last ?_
  rw [UInt64.ofNat_toNat]
  exact codes_pure x

theorem codes_colors (s : ColorSet) : Codes Reader.colors (word8 s.mask) s :=
  (codes_octet s.mask).last (codes_pure s)

theorem codes_index {α : Type} [DecidableEq α] {all : List α} {a : α} (listed : a ∈ all)
    (few : all.length ≤ UInt32.size) : Codes (Reader.choice all) (indexIn all a) a := by
  have within := List.idxOf_lt_length_of_mem listed
  have word : Codes Reader.word32 (indexIn all a) (all.idxOf a) := codes_word (Nat.lt_of_lt_of_le within few)
  refine word.last ?_
  rw [List.getElem?_eq_getElem within, List.getElem_idxOf]
  exact codes_pure a

end Words

section Lengths

variable {α : Type} {get : Reader α} {put : α → Octets}

theorem packs_text (s : String) : Packs Reader.text (text s) s := by
  intro measured
  rw [Measured, text, List.length_append] at measured
  refine (codes_word64 (by omega)).bind ((codes_octets _).last ?_)
  rw [Text.of_octets_to_octets]
  dsimp only
  rw [String.ofList_toList]
  exact codes_pure s

theorem text_written (s : String) : text s ≠ [] := by simp [text, word64, littleEndian]

theorem codes_repeated {as : List α} (each : ∀ a ∈ as, Codes get (put a) a) :
    Codes (Reader.repeated get as.length) (as.flatMap put) as := by
  induction as with
  | nil => exact codes_pure []
  | cons a rest ih =>
    have later := ih fun b member => each b (List.mem_cons_of_mem a member)
    rw [List.flatMap_cons]
    exact (each a (by simp)).bind (later.last (codes_pure (a :: rest)))

theorem codes_list {as : List α} (few : as.length < UInt64.size) (each : ∀ a ∈ as, Codes get (put a) a) :
    Codes (Reader.list get) (list put as) as :=
  (codes_word64 few).bind (codes_repeated each)

theorem length_flat_map {as : List α} (some : ∀ a ∈ as, put a ≠ []) : as.length ≤ (as.flatMap put).length := by
  induction as with
  | nil => exact Nat.le_refl 0
  | cons a rest ih =>
    have first := List.length_pos_iff.2 (some a (by simp))
    have later := ih fun b member => some b (List.mem_cons_of_mem a member)
    rw [List.flatMap_cons, List.length_append, List.length_cons]
    omega

theorem packs_list {as : List α} (some : ∀ a ∈ as, put a ≠ []) (each : ∀ a ∈ as, Packs get (put a) a) :
    Packs (Reader.list get) (list put as) as := by
  intro measured
  rw [Measured, list, List.length_append] at measured
  have longer := length_flat_map some
  refine codes_list (by omega) fun a member => each a member ?_
  obtain ⟨front, back, rfl⟩ := List.append_of_mem member
  simp only [List.flatMap_append, List.flatMap_cons, List.length_append] at measured
  rw [Measured]
  omega

theorem packs_optional {o : Option α} (each : ∀ a ∈ o, Packs get (put a) a) :
    Packs (Reader.optional get) (optional put o) o := by
  cases o with
  | none => exact fun _ => (codes_octet 0).last (codes_pure none)
  | some a =>
    intro measured
    rw [Measured, optional, List.length_cons] at measured
    have inside : Measured (put a) := by rw [Measured]; omega
    exact (codes_octet 1).bind ((each a rfl inside).last (codes_pure (some a)))

end Lengths

section Records

theorem packs_texts (ss : List String) : Packs (Reader.list Reader.text) (list text ss) ss :=
  packs_list (fun s _ => text_written s) fun s _ => packs_text s

theorem packs_text_set (s : OrderedSet String) : Packs Reader.textSet (list text s.toList) s := by
  refine (packs_texts s.toList).last ?_
  rw [OrderedSet.of_list_to_list]
  exact codes_pure s

theorem packs_stat (s : Stat) : Packs Reader.stat (stat s) s :=
  (packs_text s.text).bind fun _ => (codes_number s.value).last (codes_pure s)

theorem packs_stat_option (o : Option Stat) : Packs (Reader.optional Reader.stat) (optional stat o) o :=
  packs_optional fun s _ => packs_stat s

theorem packs_cost (c : ManaCost) : Packs Reader.cost (cost c) c := by
  have names : cost c = list text (c.symbols.map ManaSymbol.name) := by
    rw [cost, list, list, List.length_map, List.flatMap_map]
  rw [names]
  refine (packs_texts _).last ?_
  rw [List.map_map]
  have same : c.symbols.map (ManaSymbol.mk ∘ ManaSymbol.name) = c.symbols := List.map_id c.symbols
  rw [same]
  exact codes_pure c

theorem packs_expansion (e : Expansion) : Packs Reader.expansion (expansion e) e := by
  simp only [expansion, List.append_assoc]
  refine (packs_text e.name).bind ?_
  refine (packs_text e.block).bind ?_
  refine (packs_text e.code).bind ?_
  exact (packs_text e.releaseDate).last (codes_pure e)

theorem packs_face (f : Face) : Packs Reader.face (face f) f := by
  -- The equation of so long a record is slow to make.
  delta face
  simp only [List.append_assoc]
  refine (packs_text f.name).bind ?_
  refine (packs_cost f.cost).bind ?_
  refine Packs.bind (fun _ => codes_colors f.colors) ?_
  refine (packs_text_set f.supertypes).bind ?_
  refine (packs_text_set f.types).bind ?_
  refine (packs_text_set f.subtypes).bind ?_
  refine (packs_text f.typeLine).bind ?_
  refine (packs_text f.rules).bind ?_
  refine (packs_text f.flavor).bind ?_
  refine (packs_stat_option f.power).bind ?_
  refine (packs_stat_option f.toughness).bind ?_
  refine (packs_stat_option f.loyalty).bind ?_
  refine (packs_text f.artist).bind ?_
  refine (packs_text f.number).bind ?_
  refine (packs_text f.plainName).bind ?_
  refine (packs_text f.plainRules).bind ?_
  exact (packs_text f.plainFlavor).last (codes_pure f)

theorem face_written (f : Face) : face f ≠ [] := by
  delta face
  simp only [List.append_assoc]
  exact List.append_ne_nil_of_left_ne_nil (text_written f.name) _

theorem packs_legality_entry (e : String × Legality) : Packs Reader.legalityEntry (legalityEntry e) e := by
  have listed : e.2 ∈ Legality.all := by cases e.2 <;> decide
  exact (packs_text e.1).bind fun _ => (codes_index listed (by decide)).last (codes_pure e)

theorem legality_entry_written (e : String × Legality) : legalityEntry e ≠ [] :=
  List.append_ne_nil_of_left_ne_nil (text_written e.1) _

theorem packs_card (c : Card) : Packs Reader.card (card c) c := by
  have layout : c.layout ∈ Layout.all := by cases c.layout <;> decide
  have rarity : c.rarity ∈ Rarity.all := by cases c.rarity <;> decide
  have faces : Packs (Reader.list Reader.face) (list face c.faces) c.faces :=
    packs_list (fun f _ => face_written f) fun f _ => packs_face f
  have legality : Packs (Reader.list Reader.legalityEntry) (list legalityEntry c.legality.entries) c.legality.entries :=
    packs_list (fun e _ => legality_entry_written e) fun e _ => packs_legality_entry e
  have id : Packs (Reader.optional Reader.word32) (optional (fun n => word32 n.toNat) c.multiverseId)
      (c.multiverseId.map UInt32.toNat) := by
    have words : optional (fun n : UInt32 => word32 n.toNat) c.multiverseId =
        optional word32 (c.multiverseId.map UInt32.toNat) := by cases c.multiverseId <;> rfl
    rw [words]
    refine packs_optional fun n here => fun _ => ?_
    obtain ⟨n, _, rfl⟩ := Option.map_eq_some_iff.1 here
    exact codes_word32 n
  simp only [card, List.append_assoc]
  refine (packs_text c.id).bind ?_
  refine Packs.bind (fun _ => codes_index layout (by decide)) ?_
  refine faces.bind ?_
  refine Packs.bind (fun _ => codes_number c.manaValue) ?_
  refine Packs.bind (fun _ => codes_colors c.identity) ?_
  refine (packs_expansion c.expansion).bind ?_
  refine Packs.bind (fun _ => codes_index rarity (by decide)) ?_
  refine legality.bind ?_
  refine id.bind ?_
  refine Packs.bind (fun _ => codes_flag c.isLand) ?_
  refine fun _ => (codes_flag c.anyNumber).last ?_
  have number : (c.multiverseId.map UInt32.toNat).map UInt32.ofNat = c.multiverseId := by
    rw [Option.map_map]
    cases c.multiverseId <;> simp
  rw [OrderedMap.of_list_entries, number]
  exact codes_pure c

end Records

end Deckwright.Packed
