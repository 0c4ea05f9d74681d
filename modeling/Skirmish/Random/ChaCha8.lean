import Skirmish.Random

/-!
A seeded generator: the key stream of an eight-round ChaCha cipher whose key is drawn from the seed.
-/

namespace Skirmish

namespace ChaCha8

abbrev Key := Vector UInt32 8

abbrev State := Vector UInt32 16

def quarterRound (s : State) (a b c d : Fin 16) : State :=
  let s := s.set a (s[a] + s[b])
  let s := s.set d (rotate (s[d] ^^^ s[a]) 16)
  let s := s.set c (s[c] + s[d])
  let s := s.set b (rotate (s[b] ^^^ s[c]) 12)
  let s := s.set a (s[a] + s[b])
  let s := s.set d (rotate (s[d] ^^^ s[a]) 8)
  let s := s.set c (s[c] + s[d])
  s.set b (rotate (s[b] ^^^ s[c]) 7)
where
  rotate (w : UInt32) (n : UInt32) : UInt32 := (w <<< n) ||| (w >>> (32 - n))

def doubleRound (s : State) : State :=
  let s := quarterRound s 0 4 8 12
  let s := quarterRound s 1 5 9 13
  let s := quarterRound s 2 6 10 14
  let s := quarterRound s 3 7 11 15
  let s := quarterRound s 0 5 10 15
  let s := quarterRound s 1 6 11 12
  let s := quarterRound s 2 7 8 13
  quarterRound s 3 4 9 14

def initial (key : Key) (block : UInt64) : State :=
  #v[0x61707865, 0x3320646e, 0x79622d32, 0x6b206574, key[0], key[1], key[2], key[3], key[4], key[5],
    key[6], key[7], block.toUInt32, (block >>> 32).toUInt32, 0, 0]

def keyBlock (key : Key) (block : UInt64) : State :=
  let s := initial key block
  Vector.zipWith (· + ·) s (doubleRound (doubleRound (doubleRound (doubleRound s))))

def word (key : Key) (place : Nat) : UInt32 :=
  (keyBlock key (UInt64.ofNat (place / 16))).get ⟨place % 16, Nat.mod_lt _ (by decide)⟩

def nextSeed (s : UInt64) : UInt64 := s * 6364136223846793005 + 11634580027462260723

def seedWord (s : UInt64) : UInt32 :=
  let bits := (((s >>> 18) ^^^ s) >>> 27).toUInt32
  let turn := (s >>> 59).toUInt32
  (bits >>> turn) ||| (bits <<< ((32 - turn) % 32))

def keyOfSeed (seed : UInt64) : Key :=
  Vector.ofFn fun i => seedWord (Nat.repeat nextSeed (i.val + 1) seed)

end ChaCha8

structure ChaCha8 where
  key : ChaCha8.Key
  consumed : Nat

namespace ChaCha8

def ofSeed (seed : UInt64) : ChaCha8 := ⟨keyOfSeed seed, 0⟩

def next (g : ChaCha8) : UInt64 × ChaCha8 :=
  ((word g.key g.consumed).toUInt64 ||| ((word g.key (g.consumed + 1)).toUInt64 <<< 32),
    { g with consumed := g.consumed + 2 })

/-- The highest low half of a product that is accepted: it makes all answers equally likely. -/
def zone (bound : UInt64) : UInt64 :=
  (bound <<< (63 - bound.toNat.log2).toUInt64) - 1

def product (draw bound : UInt64) : Nat := draw.toNat * bound.toNat

def accepted (draw bound : UInt64) : Bool := (product draw bound).toUInt64 ≤ zone bound

def scaled (draw bound : UInt64) : UInt64 := (product draw bound >>> 64).toUInt64

/-- Draws until a word is accepted. More than half of all are, so the last try is never seen. -/
def draw (bound : UInt64) : Nat → ChaCha8 → UInt64 × ChaCha8
  | 0, g => (0, g)
  | tries + 1, g =>
    let (w, g) := g.next
    if accepted w bound then (scaled w bound, g) else draw bound tries g

def maxTries : Nat := 4096

instance : RandomSource ChaCha8 where
  nextBelow g bound := if bound = 0 then (0, g) else draw bound maxTries g

theorem scaled_lt (draw : UInt64) {bound : UInt64} (h : 0 < bound) : scaled draw bound < bound := by
  have hd := draw.toNat_lt
  have hb : 0 < bound.toNat := UInt64.lt_iff_toNat_lt.1 h
  have hp : product draw bound < bound.toNat * 2 ^ 64 := by
    rw [product, Nat.mul_comm]
    exact Nat.mul_lt_mul_of_pos_left hd hb
  have hq : product draw bound >>> 64 < bound.toNat := by
    rw [Nat.shiftRight_eq_div_pow]
    exact Nat.div_lt_of_lt_mul (by omega)
  rw [UInt64.lt_iff_toNat_lt]
  exact Nat.lt_of_le_of_lt (Nat.mod_le ..) hq

theorem draw_lt {bound : UInt64} (h : 0 < bound) : (tries : Nat) → (g : ChaCha8) →
    (draw bound tries g).1 < bound
  | 0, _ => h
  | tries + 1, g => by
    simp only [draw]
    split
    · exact scaled_lt _ h
    · exact draw_lt h tries _

instance : LawfulRandomSource ChaCha8 where
  nextBelow_lt g bound h := by
    simp only [nextBelow]
    split
    · simp_all
    · exact draw_lt h maxTries g

end ChaCha8

end Skirmish
