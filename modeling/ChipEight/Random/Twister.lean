/-!
# The random generator

A Mersenne twister: a feedback register of 624 words whose output is tempered. A seed of any size
fills the register, so equal seeds give equal sequences.
-/

namespace ChipEight.Random

abbrev Register := Vector UInt32 624

/-- A register, and how many of its words have been given out. -/
structure Generator where
  register : Register
  used : Nat
  deriving Repr

/-! ### Seeding -/

/-- The word `u` mixed with its own high bits. -/
def scramble (u : UInt32) : UInt32 := u ^^^ (u >>> 30)

def fillFrom (seed : UInt32) : Register :=
  Nat.fold 623
    (fun i _ r => r.set (i + 1) (1812433253 * scramble r[i] + UInt32.ofNat (i + 1)))
    ((Vector.replicate 624 0).set 0 seed)

/-- Writes word `1 + t % 623`, computed from its value and the word before it; the last word is
copied over the first one. -/
def stir (f : Nat → UInt32 → UInt32 → UInt32) (t : Nat) (r : Register) : Register :=
  let i := 1 + t % 623
  have hi : i < 624 := by omega
  let word := f i r[i] (scramble r[i - 1])
  let r := r.set i word
  if i = 623 then r.set 0 word else r

/-- The thirty-two-bit words of `n`, the least significant first; at least one. -/
def wordsOf (n : Nat) : List UInt32 :=
  if n < 0x100000000 then [UInt32.ofNat n] else UInt32.ofNat n :: wordsOf (n / 0x100000000)
termination_by n

def fillFromKey (key : Array UInt32) : Register :=
  let rounds := max 624 key.size
  let absorb (t : Nat) := stir (fun _ old before =>
    (old ^^^ (before * 1664525)) + key.getD (t % key.size) 0 + UInt32.ofNat (t % key.size)) t
  let spread (t : Nat) := stir (fun i old before =>
    (old ^^^ (before * 1566083941)) - UInt32.ofNat i) (rounds + t)
  let absorbed := Nat.fold rounds (fun t _ r => absorb t r) (fillFrom 19650218)
  (Nat.fold 623 (fun t _ r => spread t r) absorbed).set 0 0x80000000

/-- The generator that the magnitude of `seed` determines. -/
def Generator.ofSeed (seed : Int) : Generator :=
  ⟨fillFromKey (wordsOf seed.natAbs).toArray, 624⟩

/-! ### Drawing -/

/-- The word that the high bit of `u` and the low bits of `v` feed back. -/
def feedback (u v : UInt32) : UInt32 :=
  let y := (u &&& 0x80000000) ||| (v &&& 0x7FFFFFFF)
  (y >>> 1) ^^^ (if v &&& 1 = 0 then 0 else 0x9908B0DF)

/-- The next 624 words. -/
def twist (r : Register) : Register :=
  Nat.fold 624 (fun i _ r =>
    have h₁ : (i + 1) % 624 < 624 := by omega
    have h₂ : (i + 397) % 624 < 624 := by omega
    r.set i (r[(i + 397) % 624] ^^^ feedback r[i] r[(i + 1) % 624])) r

/-- What is given out for a word of the register. -/
def temper (y : UInt32) : UInt32 :=
  let y := y ^^^ (y >>> 11)
  let y := y ^^^ ((y <<< 7) &&& 0x9D2C5680)
  let y := y ^^^ ((y <<< 15) &&& 0xEFC60000)
  y ^^^ (y >>> 18)

namespace Generator

def word (g : Generator) : UInt32 × Generator :=
  if h : g.used < 624 then (temper g.register[g.used], { g with used := g.used + 1 })
  else
    let register := twist g.register
    (temper register[0], ⟨register, 1⟩)

def bit (g : Generator) : Bool × Generator :=
  let (w, g) := g.word
  (w >>> 31 = 1, g)

/-- The first of `draws` nine-bit numbers that is below 256. -/
def byteWithin : Nat → Generator → UInt8 × Generator
  | 0, g => (0, g)
  | draws + 1, g =>
    let (w, g) := g.word
    let n := (w >>> 23).toNat
    if n < 256 then (UInt8.ofNat n, g) else byteWithin draws g

/-- A random byte. The register has 19937 bits of state, so the first bit of its words is not set
19938 times in a row. -/
def byte (g : Generator) : UInt8 × Generator := byteWithin 19938 g

end Generator

end ChipEight.Random
