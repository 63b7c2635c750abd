import BranchingStory.Number

/-!
# Sources of randomness

A source is an endless stream of 64-bit words and the number of words taken from it.  Everything
random is computed from its words, so a source decides a whole game.  The stream that belongs to a
seed is a keystream.

Main results:

- `Source.used_next`, `Source.stream_next`: a draw takes one word and leaves the stream as it is.
-/

namespace BranchingStory

/-! ## Sources -/

/-- An endless stream of words, and how many were taken. -/
structure Source where
  stream : Nat → UInt64
  used : Nat

namespace Source

/-- The source at the start of a stream. -/
def ofStream (stream : Nat → UInt64) : Source where
  stream := stream
  used := 0

/-- The source that gives the words of a list and then zeros. -/
def scripted (words : List UInt64) : Source :=
  ofStream fun i => words.getD i 0

/-- The next word. -/
def word (s : Source) : UInt64 :=
  s.stream s.used

/-- The source after one word. -/
def next (s : Source) : Source :=
  { s with used := s.used + 1 }

@[simp]
theorem used_next (s : Source) : s.next.used = s.used + 1 :=
  rfl

@[simp]
theorem stream_next (s : Source) : s.next.stream = s.stream :=
  rfl

/-- The number from zero up to one that a word stands for; its 53 high bits count. -/
def fraction (word : UInt64) : Float :=
  (word >>> 11).toFloat / 9007199254740992

/-- The largest low half that is accepted when an index below `n` is drawn. -/
def zone (n : Nat) : Nat :=
  n * twoTo (63 - n.log2) - 1

/-- An index below `n`: the high half of the product of a word and `n`.  Words whose low half is
above the zone are rejected, which makes all indices equally likely; after `fuel` rejections the
word is taken as it is. -/
def indexFrom (n : Nat) : Nat → Source → Nat × Source
  | 0, s => (s.word.toNat * n / UInt64.size, s.next)
  | fuel + 1, s =>
      let product := s.word.toNat * n
      if product % UInt64.size ≤ zone n then (product / UInt64.size, s.next)
      else indexFrom n fuel s.next

/-- An index below `n`. -/
def index (n : Nat) (s : Source) : Nat × Source :=
  indexFrom n 10000 s

/-- The index is below the bound. -/
theorem fst_indexFrom_lt {n : Nat} (h : 0 < n) (fuel : Nat) (s : Source) :
    (indexFrom n fuel s).1 < n := by
  have hword (s : Source) : s.word.toNat * n / UInt64.size < n := by
    rw [Nat.div_lt_iff_lt_mul (by decide), Nat.mul_comm]
    exact Nat.mul_lt_mul_of_pos_left s.word.toNat_lt h
  induction fuel generalizing s with
  | zero => exact hword s
  | succ fuel ih =>
      simp only [indexFrom]
      split
      · exact hword s
      · exact ih s.next

/-- An index below a positive number is below it. -/
theorem fst_index_lt {n : Nat} (h : 0 < n) (s : Source) : (index n s).1 < n :=
  fst_indexFrom_lt h 10000 s

end Source

/-!
## Keystreams

The stream of words for a seed.  The seed is stretched to eight key words; the stream then consists
of the output blocks of a ChaCha generator with twelve rounds, a 64-bit block counter from zero, and
a zero nonce.  Two successive 32-bit words make one word of the stream, the low one first.
-/

namespace Keystream

/-! ### Key -/

/-- One step of the generator that stretches the seed. -/
def stretch (state : UInt64) : UInt64 :=
  state * 6364136223846793005 + 11634580027462260723

/-- Rotate to the right. -/
def rotateRight (x : UInt32) (n : UInt32) : UInt32 :=
  (x >>> n) ||| (x <<< ((32 - n) % 32))

/-- The key word for a state of the stretching generator. -/
def keyWord (state : UInt64) : UInt32 :=
  rotateRight (((state >>> 18) ^^^ state) >>> 27).toUInt32 (state >>> 59).toUInt32

/-- Key words, one for each step from a state. -/
def keyWordsFrom : Nat → UInt64 → List UInt32
  | 0, _ => []
  | n + 1, state => keyWord (stretch state) :: keyWordsFrom n (stretch state)

/-- The eight key words for a seed. -/
def key (seed : UInt64) : List UInt32 :=
  keyWordsFrom 8 seed

/-! ### Blocks -/

/-- The sixteen words that the generator works on. -/
abbrev Block := Vector UInt32 16

/-- Rotate to the left. -/
def rotateLeft (x : UInt32) (n : UInt32) : UInt32 :=
  (x <<< n) ||| (x >>> (32 - n))

/-- Mix four words of a block. -/
def quarterRound (b : Block) (i j k l : Fin 16) : Block :=
  let x := b[i] + b[j]
  let w := rotateLeft (b[l] ^^^ x) 16
  let z := b[k] + w
  let y := rotateLeft (b[j] ^^^ z) 12
  let x := x + y
  let w := rotateLeft (w ^^^ x) 8
  let z := z + w
  let y := rotateLeft (y ^^^ z) 7
  (((b.set i x).set j y).set k z).set l w

/-- A round on the columns and a round on the diagonals. -/
def doubleRound (b : Block) : Block :=
  let b := quarterRound b 0 4 8 12
  let b := quarterRound b 1 5 9 13
  let b := quarterRound b 2 6 10 14
  let b := quarterRound b 3 7 11 15
  let b := quarterRound b 0 5 10 15
  let b := quarterRound b 1 6 11 12
  let b := quarterRound b 2 7 8 13
  quarterRound b 3 4 9 14

/-- The input block for a counter. -/
def inputBlock (key : List UInt32) (counter : UInt64) : Block :=
  let k (i : Nat) := key.getD i 0
  #v[0x61707865, 0x3320646e, 0x79622d32, 0x6b206574,
    k 0, k 1, k 2, k 3, k 4, k 5, k 6, k 7,
    counter.toUInt32, (counter >>> 32).toUInt32, 0, 0]

/-- The output block for a counter. -/
def outputBlock (key : List UInt32) (counter : UInt64) : Block :=
  let input := inputBlock key counter
  let mixed := doubleRound (doubleRound (doubleRound (doubleRound (doubleRound
    (doubleRound input)))))
  Vector.zipWith (· + ·) mixed input

/-! ### Stream -/

/-- A word of the stream for a key: blocks hold eight words each. -/
def word (key : List UInt32) (i : Nat) : UInt64 :=
  let block := outputBlock key (UInt64.ofNat (i / 8))
  let low := block.toList.getD (2 * (i % 8)) 0
  let high := block.toList.getD (2 * (i % 8) + 1) 0
  low.toUInt64 ||| (high.toUInt64 <<< 32)

end Keystream

/-- The source for a seed. -/
def Source.seeded (seed : UInt64) : Source :=
  let key := Keystream.key seed
  ofStream (Keystream.word key)

end BranchingStory
