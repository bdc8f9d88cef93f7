/-!
# Random words

The words of the ChaCha stream cipher with twelve rounds, under a key that is spread from a
64-bit seed.  Equal seeds give equal streams.

* `Keystream.next`: the next word and the stream behind it.
* `Keystream.below`: a word below a bound, each with the same probability.
-/

namespace RegistryLoad

/-- The sixteen words that the cipher works on. -/
abbrev Block := Vector UInt32 16

namespace Block

def rotateLeft (x : UInt32) (n : UInt32) : UInt32 := (x <<< n) ||| (x >>> (32 - n))

/-- Adds word `b` to word `a`, then mixes the sum into word `d`, which is rotated. -/
def mix (s : Block) (a b d : Fin 16) (n : UInt32) : Block :=
  let sum := s[a] + s[b]
  (s.set a sum).set d (rotateLeft (s[d] ^^^ sum) n)

def quarterRound (s : Block) (a b c d : Fin 16) : Block :=
  (((s.mix a b d 16).mix c d b 12).mix a b d 8).mix c d b 7

/-- A round over the columns and one over the diagonals. -/
def doubleRound (s : Block) : Block :=
  let s := (((s.quarterRound 0 4 8 12).quarterRound 1 5 9 13).quarterRound 2 6 10 14).quarterRound
    3 7 11 15
  (((s.quarterRound 0 5 10 15).quarterRound 1 6 11 12).quarterRound 2 7 8 13).quarterRound
    3 4 9 14

/-- The output of a block: its words after twelve rounds, each added to the word it was. -/
def output (s : Block) : Block :=
  (Nat.repeat doubleRound 6 s).zipWith (· + ·) s

end Block

/-- The key of the stream. -/
abbrev Key := Vector UInt32 8

namespace Key

/-- One step of the generator that spreads a seed. -/
def advance (state : UInt64) : UInt64 := state * 6364136223846793005 + 11634580027462260723

/-- The word of a state: its high bits, folded and rotated by the topmost five of them. -/
def word (state : UInt64) : UInt32 :=
  let folded := (((state >>> 18) ^^^ state) >>> 27).toUInt32
  let turn := (state >>> 59).toUInt32
  (folded >>> turn) ||| (folded <<< ((32 - turn) % 32))

/-- Eight words from eight steps. -/
def ofSeed (seed : UInt64) : Key :=
  Vector.ofFn fun i => word (Nat.repeat advance (i.val + 1) seed)

end Key

/-- A position in the stream of a key: the words of the current block that are left, and the
number of the next block. -/
structure Keystream where
  key : Key
  counter : UInt64 := 0
  left : List UInt32 := []

namespace Keystream

/-- The four words in front of the key. -/
def constants : Vector UInt32 4 := #v[0x61707865, 0x3320646e, 0x79622d32, 0x6b206574]

/-- The words of block `counter`. -/
def block (key : Key) (counter : UInt64) : List UInt32 :=
  let input : Block := #v[
    constants[0], constants[1], constants[2], constants[3],
    key[0], key[1], key[2], key[3], key[4], key[5], key[6], key[7],
    counter.toUInt32, (counter >>> 32).toUInt32, 0, 0]
  input.output.toList

/-- The start of the stream of a seed. -/
def ofSeed (seed : UInt64) : Keystream := { key := Key.ofSeed seed }

/-- The next word of the stream. -/
def next (s : Keystream) : UInt32 × Keystream :=
  match s.left with
  | w :: left => (w, { s with left := left })
  | [] => match block s.key s.counter with
    | w :: left => (w, { s with counter := s.counter + 1, left := left })
    | [] => (0, s)

/-- The next word, reduced to one byte. -/
def byte (s : Keystream) : Nat × Keystream :=
  let (w, s) := s.next
  (w.toNat % 256, s)

/-- The number of words. -/
def wordCount : Nat := UInt32.size

/-- The number of words after which the stream comes round: sixteen for each number of a block, and
those that may be left of the first block.  A draw that fails on all of them never ends. -/
def period : Nat := 16 * UInt64.size + 16

/-- A number below `n`: the high half of the product of a word and `n`.  A word whose low half
lies behind the last full round of remainders is drawn again. -/
def belowAfter (n : Nat) : Nat → Keystream → Nat × Keystream
  | 0, s =>
    let (w, s) := s.next
    (w.toNat * n / wordCount, s)
  | draws + 1, s =>
    let (w, s) := s.next
    let zone := wordCount - 1 - (wordCount - n) % n
    if w.toNat * n % wordCount ≤ zone then (w.toNat * n / wordCount, s)
    else belowAfter n draws s

def below (n : Nat) (s : Keystream) : Nat × Keystream := belowAfter n period s

end Keystream

end RegistryLoad
