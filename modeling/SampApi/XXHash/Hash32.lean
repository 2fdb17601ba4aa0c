import SampApi.XXHash.Stripes

/-!
# The 32-bit hash

Model of `XXH32` in `src/share/xxhash.c`: the function over memory, which reads stripes, then words, then
bytes. `hash32` is the hash of a list of bytes, without memory, byte order or alignment, and `XXH32_eq`
says that the function computes it on every machine, from every address.
-/

namespace SampApi.XXHash
open Lib

def PRIME32_1 : U32 := 2654435761#32

def PRIME32_2 : U32 := 2246822519#32

def PRIME32_3 : U32 := 3266489917#32

def PRIME32_4 : U32 := 668265263#32

def PRIME32_5 : U32 := 374761393#32

namespace XXH32

/-- Mixes a word into an accumulator (source `XXH32_round`). -/
def round (seed input : U32) : U32 := rotl (seed + input * PRIME32_2) 13 * PRIME32_1

/-- Mixes a word into the hash (source the loops `while (p + 4 <= bEnd)`). -/
def mixWord (h32 x : U32) : U32 := rotl (h32 + x * PRIME32_3) 17 * PRIME32_4

/-- Mixes a byte into the hash (source the loops `while (p<bEnd)`). -/
def mixByte (h32 : U32) (b : BYTE) : U32 := rotl (h32 + b.setWidth 32 * PRIME32_5) 11 * PRIME32_1

/-- The last lines of the hash. -/
def avalanche (h32 : U32) : U32 :=
  let h32 := xorShift h32 15
  let h32 := h32 * PRIME32_2
  let h32 := xorShift h32 13
  let h32 := h32 * PRIME32_3
  xorShift h32 16

/-- The accumulators at the start. -/
def init (seed : U32) : Accs 32 := .init PRIME32_1 PRIME32_2 seed

/-- The part behind the stripes, which `XXH32_endian_align` and `XXH32_digest_endian` share. -/
def tail (mem : Memory) (get : Nat → Option U32) (bEnd p : Nat) (h32 : U32) : Option U32 := do
  let (p, h32) ← whileBlocks 4 (fun p h32 => (get p).map (mixWord h32)) bEnd p h32
  let (_, h32) ← whileBlocks 1 (fun p h32 => (mem p).map (mixByte h32)) bEnd p h32
  return avalanche h32

/-- The hash of what is in memory (source `XXH32_endian_align`). -/
def endian_align (cpu : Endianess) (mem : Memory) (input len : Nat) (seed : U32) (endian : Endianess)
    (align : Alignment) : Option U32 := do
  let get := readLE32_align cpu mem endian align
  let bEnd := input + len
  let (p, h32) ←
    if len ≥ 16 then do
      let (p, v) ← doBlocks 16 (stripe 4 round get) (bEnd - 16) input (init seed)
      pure (p, v.merge)
    else pure (input, seed + PRIME32_5)
  tail mem get bEnd p (h32 + BitVec.ofNat 32 len)

end XXH32

/-- The hash of what is in memory (source `XXH32`). -/
def XXH32 (m : Machine) (mem : Memory) (input len : Nat) (seed : U32) : Option U32 :=
  if m.force_align_check ∧ input % 4 = 0 then
    match m.endian with
    | .littleEndian => XXH32.endian_align m.endian mem input len seed .littleEndian .aligned
    | .bigEndian => XXH32.endian_align m.endian mem input len seed .bigEndian .aligned
  else
    match m.endian with
    | .littleEndian => XXH32.endian_align m.endian mem input len seed .littleEndian .unaligned
    | .bigEndian => XXH32.endian_align m.endian mem input len seed .bigEndian .unaligned

/-! ## The hash of a list -/

namespace XXH32

/-- The words of the rest are mixed in, then its bytes. -/
def finish (h32 : U32) (rest : List BYTE) : U32 :=
  let r := feed 4 (fun h32 bs => mixWord h32 (leWord 32 bs)) (h32, []) rest
  avalanche (r.2.foldl mixByte r.1)

/-- The hash before the rest is mixed in. -/
def started (seed : U32) (v : Accs 32) (large : Bool) (total : U32) : U32 :=
  (if large then v.merge else seed + PRIME32_5) + total

/-- The accumulators and the rest behind the stripes of a list. -/
def stripes (seed : U32) (xs : List BYTE) : Accs 32 × List BYTE :=
  feed 16 (absorb 4 round) (init seed, []) xs

end XXH32

/-- The hash of a list of bytes. -/
def hash32 (seed : U32) (xs : List BYTE) : U32 :=
  let r := XXH32.stripes seed xs
  XXH32.finish (XXH32.started seed r.1 (decide (16 ≤ xs.length)) (BitVec.ofNat 32 xs.length)) r.2

/-! ## The function over memory -/

namespace XXH32
variable {cpu : Endianess} {mem : Memory} {align : Alignment} {p : Nat}

/-- The address is aligned if it is said to be. -/
def Fits (n : Nat) (align : Alignment) (p : Nat) : Prop := align = .aligned → p % n = 0

lemma fits_unaligned (n p : Nat) : Fits n .unaligned p := by
  intro h
  cases h

lemma Fits.add {n : Nat} (h : Fits n align p) (k : Nat) : Fits n align (p + k * n) := by
  intro ha
  rw [Nat.add_mul_mod_self_right]
  exact h ha

/-- The part behind the stripes is what it is for the list of the bytes that are left. -/
lemma tail_eq (ha : Fits 4 align p) {xs : List BYTE} (h : Holds mem p xs) (h32 : U32) :
    tail mem (readLE32_align cpu mem cpu align) (p + xs.length) p h32 = some (finish h32 xs) := by
  obtain ⟨q, hq, heq, -, hholds⟩ := whileBlocks_eq 4
    (fun p h32 => (readLE32_align cpu mem cpu align p).map (mixWord h32))
    (fun h32 bs => mixWord h32 (leWord 32 bs)) (A := Fits 4 align) (fun p hp => hp.add 1)
    (fun p s bs hp hlen hbs => by rw [readLE32_align_eq hbs hlen hp]; rfl) ha h h32
  rw [tail, hq, ← heq]
  show (whileBlocks 1 _ _ q _).bind _ = _
  rw [whileBlocks_one mixByte hholds]
  rfl

/-- The function over memory computes the hash of the list that the memory holds. -/
lemma endian_align_eq {input : Nat} (ha : Fits 4 align input) {xs : List BYTE}
    (h : Holds mem input xs) (seed : U32) :
    endian_align cpu mem input xs.length seed cpu align = some (hash32 seed xs) := by
  obtain ⟨q, hq, heq, haq, hholds⟩ := whileBlocks_eq 16
    (stripe 4 round (readLE32_align cpu mem cpu align)) (absorb 4 round)
    (A := Fits 4 align) (fun p hp => hp.add 4)
    (fun p v bs hp hlen hbs => stripe_eq (A := Fits 4 align) (fun p hp => hp.add 1)
      (fun p bs hp hlen hbs => readLE32_align_eq hbs hlen hp) hp hlen hbs) ha h (init seed)
  rw [endian_align]
  by_cases hlarge : 16 ≤ xs.length
  · have hloop := doBlocks_eq_while 16 (stripe 4 round (readLE32_align cpu mem cpu align))
      (show input ≤ input + xs.length - 16 by omega) (init seed)
    rw [Nat.sub_add_cancel (by omega), hq] at hloop
    rw [if_pos hlarge, hloop]
    show tail mem _ (input + xs.length) q _ = _
    rw [← heq, tail_eq haq hholds, hash32, started, if_pos (decide_eq_true hlarge)]
    rfl
  · have hrest : stripes seed xs = (init seed, xs) := by
      rw [stripes, feed_short 16 _ (by rw [List.length_nil]; omega), List.nil_append]
    rw [if_neg hlarge]
    show tail mem _ (input + xs.length) input _ = _
    rw [tail_eq ha h, hash32, hrest, started, if_neg (by simp [hlarge])]

end XXH32

/-- On every machine, and for bytes at any address, the function reads no byte that is not there, loads
    no word from an address that is not aligned, and returns the hash of the list of the bytes: the
    same on all machines and for all addresses. -/
theorem XXH32_eq (m : Machine) {mem : Memory} {input : Nat} {xs : List BYTE} (h : Holds mem input xs)
    (seed : U32) : XXH32 m mem input xs.length seed = some (hash32 seed xs) := by
  rw [XXH32]
  split
  · rename_i hc
    have ha : XXH32.Fits 4 .aligned input := fun _ => hc.2
    cases hm : m.endian <;> exact XXH32.endian_align_eq ha h seed
  · have ha := XXH32.fits_unaligned 4 input
    cases hm : m.endian <;> exact XXH32.endian_align_eq ha h seed

/-- The path `/player/kick/bob`. -/
def Demo.path : List BYTE := [47, 112, 108, 97, 121, 101, 114, 47, 107, 105, 99, 107, 47, 98, 111, 98]

/-- Its hash with the default seed, at an odd address on a processor with the upper bytes in front. -/
theorem XXH32_eq_path :
    XXH32 ⟨.bigEndian, true⟩ (placed 1001 Demo.path) 1001 16 17733194#32 = some 2398126755#32 := by
  have hhash : hash32 17733194#32 Demo.path = 2398126755#32 := by decide +kernel
  rw [← hhash]
  exact XXH32_eq ⟨.bigEndian, true⟩ (holds_placed 1001 Demo.path) 17733194#32

end SampApi.XXHash
