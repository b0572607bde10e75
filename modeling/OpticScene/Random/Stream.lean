/-!
# The random stream

A scene draws its random numbers from one stream that a seed determines. The stream is the key
stream of the ChaCha cipher with twelve rounds: each draw takes the next two words of it and makes
a double in `[0, 1)` of their upper 53 bits. A place in the stream is therefore the seed and the
number of draws made before.

## Main definitions

* `Random.key`: the cipher key that a seed expands to.
* `Random.block`: sixteen words of the key stream.
* `Random.Stream`: a place in the stream of a seed.
* `Random.Stream.value`, `Random.Stream.advance`: the number drawn there, and the next place.
-/

namespace OpticScene.Random

/-- The word turned to the left by `n` bits. -/
def rotateLeft (x n : UInt32) : UInt32 := (x <<< n) ||| (x >>> (32 - n))

/-- One step of the generator that expands a seed, and the word it puts out. -/
def expandStep (state : UInt64) : UInt64 × UInt32 :=
  let state := state * 6364136223846793005 + 11634580027462260723
  let word := (((state >>> 18) ^^^ state) >>> 27).toUInt32
  let turn := (state >>> 59).toUInt32
  (state, if turn = 0 then word else rotateLeft word (32 - turn))

/-- The next `n` words that a seed expands to. -/
def expand : Nat → UInt64 → List UInt32
  | 0, _ => []
  | n + 1, state =>
    let (state, word) := expandStep state
    word :: expand n state

/-- The cipher key of a seed. -/
def key (seed : UInt64) : List UInt32 := expand 8 seed

/-- Four words of the cipher state are mixed. -/
def quarterRound (s : Array UInt32) (ia ib ic id : Nat) : Array UInt32 :=
  let a := s.getD ia 0
  let b := s.getD ib 0
  let c := s.getD ic 0
  let d := s.getD id 0
  let a := a + b
  let d := rotateLeft (d ^^^ a) 16
  let c := c + d
  let b := rotateLeft (b ^^^ c) 12
  let a := a + b
  let d := rotateLeft (d ^^^ a) 8
  let c := c + d
  let b := rotateLeft (b ^^^ c) 7
  (((s.setIfInBounds ia a).setIfInBounds ib b).setIfInBounds ic c).setIfInBounds id d

/-- Two rounds: the columns of the state, then its diagonals. -/
def doubleRound (s : Array UInt32) : Array UInt32 :=
  let s := quarterRound s 0 4 8 12
  let s := quarterRound s 1 5 9 13
  let s := quarterRound s 2 6 10 14
  let s := quarterRound s 3 7 11 15
  let s := quarterRound s 0 5 10 15
  let s := quarterRound s 1 6 11 12
  let s := quarterRound s 2 7 8 13
  quarterRound s 3 4 9 14

/-- The cipher state before the rounds: four constants, the key, the number of the block in two
words, and two zeros. -/
def initialState (key : List UInt32) (counter : UInt64) : Array UInt32 :=
  let constants : List UInt32 := [0x61707865, 0x3320646e, 0x79622d32, 0x6b206574]
  (constants ++ key ++ [counter.toUInt32, (counter >>> 32).toUInt32, 0, 0]).toArray

/-- The words of the key stream with the numbers `16 * counter` to `16 * counter + 15`. -/
def block (key : List UInt32) (counter : UInt64) : Array UInt32 :=
  let start := initialState key counter
  let mixed := (List.range 6).foldl (fun s _ => doubleRound s) start
  start.zipWith (· + ·) mixed

/-- A place in the stream of a seed. -/
structure Stream where
  /-- What determines the stream. -/
  seed : UInt64
  /-- The number of draws made before this place. -/
  drawn : Nat
  deriving Repr, DecidableEq, Inhabited

namespace Stream

/-- The start of the stream of a seed. -/
def ofSeed (seed : UInt64) : Stream := ⟨seed, 0⟩

/-- The place after one draw. -/
def advance (s : Stream) : Stream := { s with drawn := s.drawn + 1 }

/-- The number drawn at a place: the upper 53 bits of two words, the first of them low, as a
fraction. -/
def value (s : Stream) : Float :=
  let words := block (key s.seed) (UInt64.ofNat (s.drawn / 8))
  let low := words.getD (2 * (s.drawn % 8)) 0
  let high := words.getD (2 * (s.drawn % 8) + 1) 0
  let bits := (high.toUInt64 <<< 32) ||| low.toUInt64
  (bits >>> 11).toFloat * (1.0 / 9007199254740992.0)

/-- A draw moves one place on and keeps the seed. -/
@[simp] theorem seed_advance (s : Stream) : s.advance.seed = s.seed := rfl

@[simp] theorem drawn_advance (s : Stream) : s.advance.drawn = s.drawn + 1 := rfl

end Stream

/-- A computation that may draw from the stream and may fail. A failure keeps the place that the
stream had reached. -/
abbrev Draws (ε α : Type) := ExceptT ε (StateM Stream) α

/-- Draws one number. -/
def draw : Draws ε Float := do
  let s ← get
  set s.advance
  return s.value

end OpticScene.Random
