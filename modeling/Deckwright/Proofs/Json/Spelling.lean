import Deckwright.Json.Decoder
import Deckwright.Json.Printer
import Deckwright.Proofs.Text.Utf8
set_option autoImplicit false

namespace Deckwright.Json

def octetChar (b : UInt8) : Char := Char.ofNat b.toNat

def spelled (s : List Char) : List Char := (Text.toOctets s).map octetChar

theorem spelled_append (s t : List Char) : spelled (s ++ t) = spelled s ++ spelled t := by
  rw [spelled, Text.to_octets_append, List.map_append]
  rfl

theorem octet_char_value (b : UInt8) : (octetChar b).toNat = b.toNat := by
  have size := b.toNat_lt
  have valid : Nat.isValidChar b.toNat := .inl (by omega)
  rw [octetChar, Char.ofNat, dif_pos valid]
  rfl

theorem octet_of_char (b : UInt8) : Text.octet (octetChar b).toNat = b := by
  rw [octet_char_value]
  exact UInt8.ofNat_toNat

theorem char_octets_ascii {c : Char} (ascii : c.toNat < 0x80) : Text.charOctets c = [Text.octet c.toNat] := by
  rw [Text.charOctets]
  exact if_pos ascii

theorem spelled_cons {c : Char} (ascii : c.toNat < 0x80) (s : List Char) : spelled (c :: s) = c :: spelled s := by
  rw [spelled, Text.to_octets_cons, char_octets_ascii ascii, List.singleton_append, List.map_cons, octetChar,
    Text.octet_value (by omega), Char.ofNat_toNat]
  rfl

theorem spelled_sign {c : Char} (ascii : c.toNat < 0x80) : spelled [c] = [c] := spelled_cons ascii []

theorem spelled_ascii {s : List Char} (ascii : ∀ c ∈ s, c.toNat < 0x80) : spelled s = s := by
  induction s with
  | nil => rfl
  | cons c rest ih =>
    rw [spelled_cons (ascii c (by simp)), ih fun d member => ascii d (List.mem_cons_of_mem c member)]

theorem spelled_word {s : List Char} (ascii : (s.all fun c => c.toNat < 0x80) = true) : spelled s = s :=
  spelled_ascii fun c member => of_decide_eq_true (List.all_eq_true.1 ascii c member)

theorem pieces_octet {b : UInt8} (plain : 32 ≤ b.toNat) (quote : b.toNat ≠ 34) (escape : b.toNat ≠ 92) (s : List Char) :
    pieces (octetChar b :: s) = (pieces s).map fun (ps, rest) => (.octet b :: ps, rest) := by
  have value := octet_char_value b
  have notQuote : octetChar b ≠ '"' := fun same => quote (value.symm.trans (congrArg Char.toNat same))
  have notEscape : octetChar b ≠ '\\' := fun same => escape (value.symm.trans (congrArg Char.toNat same))
  have high : ¬ (octetChar b).toNat < 32 := by omega
  have back := octet_of_char b
  rw [pieces]
  · simp [high, notEscape, back]
  · exact notQuote
  · exact fun _ _ _ _ _ same => absurd same notEscape
  · exact fun _ _ same => absurd same notEscape

theorem pieces_octets {bs : List UInt8} (plain : ∀ b ∈ bs, 32 ≤ b.toNat ∧ b.toNat ≠ 34 ∧ b.toNat ≠ 92) (s : List Char) :
    pieces (bs.map octetChar ++ s) = (pieces s).map fun (ps, rest) => (bs.map .octet ++ ps, rest) := by
  induction bs with
  | nil => simp
  | cons b bs ih =>
    obtain ⟨least, quote, escape⟩ := plain b (by simp)
    rw [List.map_cons, List.cons_append, pieces_octet least quote escape,
      ih fun c member => plain c (List.mem_cons_of_mem b member), Option.map_map]
    rfl

theorem join_octets (bs : List UInt8) (ps : List Piece) :
    joinPieces (bs.map .octet ++ ps) = (joinPieces ps).map (bs ++ ·) := by
  induction bs with
  | nil => simp
  | cons b bs ih =>
    rw [List.map_cons, List.cons_append, joinPieces, ih, Option.map_map]
    rfl

theorem join_unit {n : Nat} (plain : n < 0xD800) (ps : List Piece) :
    joinPieces (.unit n :: ps) = (joinPieces ps).map (Text.charOctets (Char.ofNat n) ++ ·) := by
  have high : isHighSurrogate n = false := by simp [isHighSurrogate]; omega
  have low : isLowSurrogate n = false := by simp [isLowSurrogate]; omega
  cases ps with
  | nil => simp [joinPieces, high, low]
  | cons p qs => cases p <;> simp [joinPieces, high, low]

theorem pieces_short {e c : Char} (short : shortEscape? e = some c) (s : List Char) :
    pieces ('\\' :: e :: s) = (pieces s).map fun (ps, rest) => (.octet (Text.octet c.toNat) :: ps, rest) := by
  have other : e ≠ 'u' := fun same => by subst same; cases short
  rw [pieces]
  · rw [short]
  · exact fun _ _ _ _ _ same _ => absurd same other

theorem pieces_unit {n : Nat} (small : n < 32) (s : List Char) :
    pieces ('\\' :: 'u' :: '0' :: '0' :: hexDigit (n / 16) :: hexDigit (n % 16) :: s) =
      (pieces s).map fun (ps, rest) => (.unit n :: ps, rest) := by
  have read : ∀ k < 32, hex4? '0' '0' (hexDigit (k / 16)) (hexDigit (k % 16)) = some k := by decide
  rw [pieces, read n small]

structure Pieced (c : Char) (ps : List Piece) : Prop where
  read : ∀ s, pieces (spelled (textChar c) ++ s) = (pieces s).map fun (qs, rest) => (ps ++ qs, rest)
  join : ∀ qs, joinPieces (ps ++ qs) = (joinPieces qs).map (Text.charOctets c ++ ·)

theorem short_pieced {c e : Char} (written : textChar c = ['\\', e]) (short : shortEscape? e = some c)
    (ascii : c.toNat < 0x80 ∧ e.toNat < 0x80) : Pieced c [.octet (Text.octet c.toNat)] where
  read s := by
    rw [written, spelled_cons (by decide), spelled_cons ascii.2]
    exact pieces_short short s
  join qs := by
    rw [char_octets_ascii ascii.1]
    exact join_octets [_] qs

theorem unit_pieced {c : Char} (small : c.toNat < 32)
    (written : textChar c = ['\\', 'u', '0', '0', hexDigit (c.toNat / 16), hexDigit (c.toNat % 16)]) :
    Pieced c [.unit c.toNat] where
  read s := by
    have ascii : ∀ k < 16, (hexDigit k).toNat < 0x80 := by decide
    have plain : ∀ d ∈ textChar c, d.toNat < 0x80 := by
      rw [written]
      simp [ascii (c.toNat / 16) (by omega), ascii (c.toNat % 16) (by omega)]
    rw [spelled_ascii plain, written]
    exact pieces_unit small s
  join qs := by
    rw [List.singleton_append, join_unit (by omega), Char.ofNat_toNat]

theorem plain_pieced {c : Char} (written : textChar c = [c]) (high : 32 ≤ c.toNat) (quote : c ≠ '"') (escape : c ≠ '\\') :
    Pieced c ((Text.charOctets c).map .octet) where
  read s := by
    have away {b : UInt8} (member : b ∈ Text.charOctets c) {d : Char} (ascii : d.toNat < 0x80) (other : c ≠ d) :
        b.toNat ≠ d.toNat := fun same =>
      other (Char.toNat_inj.1 ((Text.ascii_octet member (by omega)).symm.trans same))
    have plain : ∀ b ∈ Text.charOctets c, 32 ≤ b.toNat ∧ b.toNat ≠ 34 ∧ b.toNat ≠ 92 := by
      refine fun b member => ⟨?_, away member (d := '"') (by decide) quote, away member (d := '\\') (by decide) escape⟩
      by_cases ascii : b.toNat < 0x80
      · rw [Text.ascii_octet member ascii]
        exact high
      · omega
    rw [written, spelled, Text.to_octets_cons, Text.toOctets, List.flatMap_nil, List.append_nil]
    exact pieces_octets plain s
  join := join_octets _

theorem char_pieced (c : Char) : ∃ ps, Pieced c ps := by
  have short (e : Char) (written : textChar c = ['\\', e]) (read : shortEscape? e = some c)
      (ascii : c.toNat < 0x80 ∧ e.toNat < 0x80) : ∃ ps, Pieced c ps := ⟨_, short_pieced written read ascii⟩
  by_cases quote : c = '"'
  · subst quote
    exact short '"' rfl rfl (by decide)
  by_cases escape : c = '\\'
  · subst escape
    exact short '\\' rfl rfl (by decide)
  by_cases back : c = Char.ofNat 8
  · subst back
    exact short 'b' rfl rfl (by decide)
  by_cases feed : c = Char.ofNat 12
  · subst feed
    exact short 'f' rfl rfl (by decide)
  by_cases line : c = '\n'
  · subst line
    exact short 'n' rfl rfl (by decide)
  by_cases start : c = '\r'
  · subst start
    exact short 'r' rfl rfl (by decide)
  by_cases tab : c = '\t'
  · subst tab
    exact short 't' rfl rfl (by decide)
  have code {n : Nat} (other : c ≠ Char.ofNat n) : c.toNat ≠ n := fun same => other (by rw [← same, Char.ofNat_toNat])
  have rest : textChar c =
      if c.toNat < 32 then ['\\', 'u', '0', '0', hexDigit (c.toNat / 16), hexDigit (c.toNat % 16)] else [c] := by
    simp only [textChar, if_neg quote, if_neg escape, if_neg (code back), if_neg (code feed), if_neg line, if_neg start,
      if_neg tab]
  by_cases small : c.toNat < 32
  · exact ⟨_, unit_pieced small (rest.trans (if_pos small))⟩
  · exact ⟨_, plain_pieced (rest.trans (if_neg small)) (by omega) quote escape⟩

theorem text_pieces (s : List Char) :
    ∃ ps, (∀ rest, pieces (spelled (s.flatMap textChar) ++ '"' :: rest) = some (ps, rest)) ∧
      joinPieces ps = some (Text.toOctets s) := by
  induction s with
  | nil => exact ⟨[], fun rest => rfl, rfl⟩
  | cons c s ih =>
    obtain ⟨ps, read, join⟩ := ih
    obtain ⟨qs, first⟩ := char_pieced c
    refine ⟨qs ++ ps, fun rest => ?_, ?_⟩
    · rw [List.flatMap_cons, spelled_append, List.append_assoc, first.read, read]
      rfl
    · rw [first.join, join, Text.to_octets_cons]
      rfl

theorem quoted_pieces (s : String) :
    ∃ ps, (∀ rest, pieces (spelled (s.toList.flatMap textChar) ++ '"' :: rest) = some (ps, rest)) ∧
      stringOf? ps = some s := by
  obtain ⟨ps, read, join⟩ := text_pieces s.toList
  refine ⟨ps, read, ?_⟩
  rw [stringOf?, join, Option.bind_some, Text.of_octets_to_octets, Option.map_some, String.ofList_toList]

end Deckwright.Json
