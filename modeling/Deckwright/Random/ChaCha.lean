set_option autoImplicit false

/- The ChaCha generator with eight rounds: an endless row of 32-bit words that a seed
   determines. The state of a block is four rows of four words; a round on the columns
   treats whole rows at once, and turning the rows makes the diagonals columns. -/
namespace Deckwright.ChaCha

def rotateLeft (x : UInt32) (n : UInt32) : UInt32 := (x <<< n) ||| (x >>> (32 - n))

def rotateRight (x : UInt32) (n : UInt32) : UInt32 :=
  if n = 0 then x else (x >>> n) ||| (x <<< (32 - n))

structure Row where
  a : UInt32
  b : UInt32
  c : UInt32
  d : UInt32
deriving DecidableEq

namespace Row

def zip (f : UInt32 → UInt32 → UInt32) (r s : Row) : Row := ⟨f r.a s.a, f r.b s.b, f r.c s.c, f r.d s.d⟩

def add (r s : Row) : Row := zip (· + ·) r s

def mix (n : UInt32) (r s : Row) : Row := zip (fun x y => rotateLeft (x ^^^ y) n) r s

def turn (r : Row) : Row := ⟨r.b, r.c, r.d, r.a⟩

def toList (r : Row) : List UInt32 := [r.a, r.b, r.c, r.d]

end Row

structure Block where
  first : Row
  second : Row
  third : Row
  fourth : Row
deriving DecidableEq

namespace Block

def columns (s : Block) : Block :=
  let p := s.first.add s.second
  let q := s.fourth.mix 16 p
  let r := s.third.add q
  let t := s.second.mix 12 r
  let p := p.add t
  let q := q.mix 8 p
  let r := r.add q
  let t := t.mix 7 r
  ⟨p, t, r, q⟩

def turned (s : Block) : Block := ⟨s.first, s.second.turn, s.third.turn.turn, s.fourth.turn.turn.turn⟩

def turnedBack (s : Block) : Block := ⟨s.first, s.second.turn.turn.turn, s.third.turn.turn, s.fourth.turn⟩

def doubleRound (s : Block) : Block := s.columns.turned.columns.turnedBack

def add (s t : Block) : Block :=
  ⟨s.first.add t.first, s.second.add t.second, s.third.add t.third, s.fourth.add t.fourth⟩

def toList (s : Block) : List UInt32 :=
  s.first.toList ++ s.second.toList ++ s.third.toList ++ s.fourth.toList

end Block

structure Key where
  low : Row
  high : Row
deriving DecidableEq

def constants : Row := ⟨0x61707865, 0x3320646e, 0x79622d32, 0x6b206574⟩

def start (key : Key) (counter : UInt64) : Block :=
  ⟨constants, key.low, key.high, ⟨counter.toUInt32, (counter >>> 32).toUInt32, 0, 0⟩⟩

def block (key : Key) (counter : UInt64) : Block :=
  let s := start key counter
  s.doubleRound.doubleRound.doubleRound.doubleRound.add s

def advance (state : UInt64) : UInt64 := state * 6364136223846793005 + 11634580027462260723

def wordOf (state : UInt64) : UInt32 :=
  rotateRight (((state >>> 18) ^^^ state) >>> 27).toUInt32 (state >>> 59).toUInt32

def rowOf (state : UInt64) : Row × UInt64 :=
  let s := advance state
  let t := advance s
  let u := advance t
  let v := advance u
  (⟨wordOf s, wordOf t, wordOf u, wordOf v⟩, v)

def keyOfSeed (seed : UInt64) : Key :=
  let (low, state) := rowOf seed
  ⟨low, (rowOf state).1⟩

structure Stream where
  key : Key
  counter : UInt64
  pending : List UInt32
deriving DecidableEq

namespace Stream

def ofSeed (seed : UInt64) : Stream := ⟨keyOfSeed seed, 0, []⟩

def next (s : Stream) : UInt32 × Stream :=
  match s.pending with
  | w :: rest => (w, { s with pending := rest })
  | [] =>
    let words := (block s.key s.counter).toList
    (words.headD 0, { s with counter := s.counter + 1, pending := words.drop 1 })

-- Words up to the zone are spread evenly over the range; the rest are thrown away, and
-- as they are fewer than half the words, the tries do not run out.
def zone (range : Nat) : Nat := range * Nat.pow 2 (31 - range.log2) - 1

def belowFrom (range : Nat) : Nat → Stream → Nat × Stream
  | 0, s => (0, s)
  | tries + 1, s =>
    let (word, s) := s.next
    let product := word.toNat * range
    if product % 0x100000000 ≤ zone range then (product / 0x100000000, s) else belowFrom range tries s

def below (s : Stream) (range : Nat) : Nat × Stream := belowFrom range 1000 s

def shuffleFrom {α : Type} : Nat → Array α → Stream → Array α × Stream
  | 0, as, s => (as, s)
  | i + 1, as, s =>
    let (j, s) := s.below (i + 2)
    shuffleFrom i (as.swapIfInBounds (i + 1) j) s

def shuffle {α : Type} (s : Stream) (as : List α) : List α × Stream :=
  let (shuffled, s) := shuffleFrom (as.length - 1) as.toArray s
  (shuffled.toList, s)

end Stream

end Deckwright.ChaCha
