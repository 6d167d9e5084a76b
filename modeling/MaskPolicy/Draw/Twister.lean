/-!
# The twisted generator

A linear generator over 624 words of 32 bits. Every 624 outputs the words are replaced by a twisted
combination of themselves, and each output is a tempered word. Seeds of any size are mixed in
through their 32-bit words, the low word first. A draw below a bound takes as many bits as the bound
has and starts over until the number is below the bound.
-/

namespace MaskPolicy

/-- The words of the generator and the place of the next output among them. -/
structure Twister where
  words : Vector UInt32 624
  next : Nat

namespace Twister

/-- The word that a first filling puts after another one. -/
def spread (previous : UInt32) (i : Nat) : UInt32 :=
  (previous ^^^ (previous >>> 30)) * 1812433253 + UInt32.ofNat i

/-- The words filled from one word. -/
def fillFrom (first : UInt32) : Vector UInt32 624 :=
  Nat.fold 623 (fun i h ws => ws.set (i + 1) (spread ws[i] (i + 1)))
    (Vector.replicate 624 first)

/-- What is left of a natural number from `2 ^ 32` on without its low word is smaller. -/
theorem div_word_lt {n : Nat} (h : ¬n < Nat.pow 2 32) : n / Nat.pow 2 32 < n :=
  have hbase : 0 < Nat.pow 2 32 := by decide
  Nat.div_lt_self (Nat.lt_of_lt_of_le hbase (Nat.le_of_not_lt h)) (by decide)

/-- The words of a natural number in base `2 ^ 32`, the low one first; zero has one word. -/
def wordsOf (n : Nat) : List UInt32 :=
  if h : n < Nat.pow 2 32 then [UInt32.ofNat n]
  else
    have := div_word_lt h
    UInt32.ofNat n :: wordsOf (n / Nat.pow 2 32)
termination_by n

/-- A mixing pass: a place from 1 to 623 is changed by a function of the word before it, and the
last word is carried over to the front when the pass runs past the end. -/
def mixAt (change : UInt32 → UInt32 → UInt32) (place : Nat) (ws : Vector UInt32 624) :
    Vector UInt32 624 :=
  let i := place % 623 + 1
  have hi : i < 624 := by have := Nat.mod_lt place (show 0 < 623 by decide); omega
  let previous := ws[i - 1]
  let ws := ws.set i (change (previous ^^^ (previous >>> 30)) ws[i])
  if i = 623 then ws.set 0 ws[623] else ws

/-- The words mixed with the words of a key. -/
def mixKey (key : List UInt32) (ws : Vector UInt32 624) : Vector UInt32 624 :=
  let rounds := max 624 key.length
  let ws := Nat.fold rounds (fun k _ ws =>
    let j := k % key.length
    let word := (key[j]?).getD 0
    mixAt (fun p w => (w ^^^ (p * 1664525)) + word + UInt32.ofNat j) k ws) ws
  let ws := Nat.fold 623 (fun k _ ws =>
    let place := rounds + k
    mixAt (fun p w => (w ^^^ (p * 1566083941)) - UInt32.ofNat (place % 623 + 1)) place ws) ws
  ws.set 0 0x80000000

/-- The generator for a seed. The sign of the seed does not matter. -/
def ofSeed (seed : Int) : Twister :=
  ⟨mixKey (wordsOf seed.natAbs) (fillFrom 19650218), 624⟩

/-- One word replaced by a combination of itself, the next word and a distant one. -/
def twistAt (i : Nat) (h : i < 624) (ws : Vector UInt32 624) : Vector UInt32 624 :=
  have h1 : (i + 1) % 624 < 624 := Nat.mod_lt _ (by decide)
  have h2 : (i + 397) % 624 < 624 := Nat.mod_lt _ (by decide)
  let joined := (ws[i] &&& 0x80000000) ||| (ws[(i + 1) % 624] &&& 0x7fffffff)
  let matrix : UInt32 := if joined &&& 1 = 0 then 0 else 0x9908b0df
  ws.set i (ws[(i + 397) % 624] ^^^ (joined >>> 1) ^^^ matrix)

/-- All words replaced, in order. -/
def twist (ws : Vector UInt32 624) : Vector UInt32 624 :=
  Nat.fold 624 (fun i h ws => twistAt i h ws) ws

/-- A word scrambled for output. -/
def temper (w : UInt32) : UInt32 :=
  let w := w ^^^ (w >>> 11)
  let w := w ^^^ ((w <<< 7) &&& 0x9d2c5680)
  let w := w ^^^ ((w <<< 15) &&& 0xefc60000)
  w ^^^ (w >>> 18)

/-- The next output. -/
def output (t : Twister) : UInt32 × Twister :=
  if h : t.next < 624 then (temper t.words[t.next], { t with next := t.next + 1 })
  else
    let words := twist t.words
    (temper words[0], ⟨words, 1⟩)

/-- The next number of a given count of bits, the low words first. -/
def bits (count : Nat) (t : Twister) : Nat × Twister :=
  let (word, t) := t.output
  if count ≤ 32 then ((word >>> UInt32.ofNat (32 - count)).toNat, t)
  else
    let (high, t) := bits (count - 32) t
    (word.toNat + Nat.pow 2 32 * high, t)
termination_by count

/-- The first number below a bound among the next numbers of its count of bits, as many as the fuel.
-/
def search (bound : Nat) : Nat → Twister → Option (Nat × Twister)
  | 0, _ => none
  | fuel + 1, t =>
    let drawn := t.bits (bound.log2 + 1)
    if drawn.1 < bound then some drawn else search bound fuel drawn.2

/-- How many states there are of so many words, with so many values each and so many places. -/
@[irreducible] def countStates (values words places : Nat) : Nat := Nat.pow values words * places

/-- How many states a generator can be in after an output. -/
def stateCount : Nat := countStates UInt32.size 624 625

/-- The first number below a bound among those of its count of bits. It is looked for until there is
one: a generator that has been through more numbers than it has states repeats itself. -/
def below? (bound : Nat) (t : Twister) : Option (Nat × Twister) := search bound (stateCount + 1) t

/-- What is found below a bound lies below the bound. -/
theorem search_lt {bound fuel : Nat} {t t' : Twister} {n : Nat}
    (h : search bound fuel t = some (n, t')) : n < bound := by
  induction fuel generalizing t with
  | zero => cases h
  | succ fuel ih =>
    rw [search] at h
    split at h
    · next hlt =>
      obtain ⟨rfl, -⟩ := Prod.mk.inj (Option.some.inj h)
      exact hlt
    · exact ih h

/-- What is drawn below a bound lies below the bound. -/
theorem below?_lt {bound : Nat} {t t' : Twister} {n : Nat}
    (h : below? bound t = some (n, t')) : n < bound := search_lt h

end Twister

end MaskPolicy
