/-! # The minimal standard generator

The multiplicative congruential generator over the prime `2^31 - 1` with multiplier `16807`,
which every draw comes from. A seed that reduces to zero would stay there and is refused.
-/

namespace SwapDesk

/-- The state of the generator, in `[1, 2^31 - 2]` for every generator built by a seed. -/
structure MinStd where
  state : Nat
  deriving DecidableEq, Repr

abbrev Draw := StateM MinStd

namespace MinStd

def modulus : Nat := 2147483647

def multiplier : Nat := 16807

/-- The generator for a seed, unless the seed is a multiple of the modulus. -/
def ofSeed? (seed : UInt64) : Option MinStd :=
  let s := seed.toNat % modulus
  if s = 0 then none else some ⟨s⟩

def step (g : MinStd) : MinStd := ⟨g.state * multiplier % modulus⟩

/-- The double `(state - 1) / (2^31 - 2)` of a state. -/
def unit (g : MinStd) : Float := Float.ofNat (g.state - 1) / 2147483646.0

/-- Steps, then reads the new state as a double in `[0, 1)`. -/
def nextFloat : Draw Float := fun g => (g.step.unit, g.step)

/-- Steps, then scales the double by `2^32` and truncates it to a word. -/
def nextWord32 : Draw UInt32 := fun g => ((g.step.unit * 4294967296.0).toUInt32, g.step)

def nextWord64 : Draw UInt64 := do
  let hi ← nextWord32
  let lo ← nextWord32
  return (hi.toUInt64 <<< 32) ||| lo.toUInt64

def words : Nat → Draw (List UInt32)
  | 0 => pure []
  | n + 1 => do
    let w ← nextWord32
    let ws ← words n
    return w :: ws

def littleEndian (w : UInt32) : List UInt8 :=
  [w.toUInt8, (w >>> 8).toUInt8, (w >>> 16).toUInt8, (w >>> 24).toUInt8]

/-- `n` bytes: one word per started group of four, the last word cut short. -/
def fillBytes (n : Nat) : Draw (List UInt8) := do
  let ws ← words ((n + 3) / 4)
  return (ws.flatMap littleEndian).take n

end MinStd

end SwapDesk
