import SampApi.XXHash.Hash32

/-!
# The 64-bit hash

Model of `XXH64` in `src/share/xxhash.c`, in the way of `XXH32`. Its stripes have four words of eight
bytes, and what they leave is read in words of eight bytes, at most one word of four, and bytes.
-/

namespace SampApi.XXHash
open Lib

def PRIME64_1 : U64 := 11400714785074694791#64

def PRIME64_2 : U64 := 14029467366897019727#64

def PRIME64_3 : U64 := 1609587929392839161#64

def PRIME64_4 : U64 := 9650029242287828579#64

def PRIME64_5 : U64 := 2870177450012600261#64

namespace XXH64

/-- Mixes a word into an accumulator (source `XXH64_round`). -/
def round (acc input : U64) : U64 := rotl (acc + input * PRIME64_2) 31 * PRIME64_1

/-- Mixes an accumulator into the hash (source `XXH64_mergeRound`). -/
def mergeRound (acc val : U64) : U64 := (acc ^^^ round 0 val) * PRIME64_1 + PRIME64_4

/-- The hash of the accumulators. -/
def merge (v : Accs 64) : U64 :=
  mergeRound (mergeRound (mergeRound (mergeRound v.merge v.v1) v.v2) v.v3) v.v4

/-- Mixes a word into the hash (source the loops `while (p + 8 <= bEnd)`). -/
def mixLong (h64 x : U64) : U64 := rotl (h64 ^^^ round 0 x) 27 * PRIME64_1 + PRIME64_4

/-- Mixes a word of four bytes into the hash. -/
def mixWord (h64 : U64) (x : U32) : U64 :=
  rotl (h64 ^^^ x.setWidth 64 * PRIME64_1) 23 * PRIME64_2 + PRIME64_3

/-- Mixes a byte into the hash (source the loops `while (p<bEnd)`). -/
def mixByte (h64 : U64) (b : BYTE) : U64 := rotl (h64 ^^^ b.setWidth 64 * PRIME64_5) 11 * PRIME64_1

/-- The last lines of the hash. -/
def avalanche (h64 : U64) : U64 :=
  let h64 := xorShift h64 33
  let h64 := h64 * PRIME64_2
  let h64 := xorShift h64 29
  let h64 := h64 * PRIME64_3
  xorShift h64 32

/-- The accumulators at the start. -/
def init (seed : U64) : Accs 64 := .init PRIME64_1 PRIME64_2 seed

/-- Mixes in a word of four bytes, if there is one (source `if (p + 4 <= bEnd)`). -/
def tailWord (get32 : Nat → Option U32) (bEnd p : Nat) (h64 : U64) : Option (Nat × U64) :=
  if p + 4 ≤ bEnd then (get32 p).map fun x => (p + 4, mixWord h64 x) else some (p, h64)

/-- The part behind the stripes, which `XXH64_endian_align` and `XXH64_digest_endian` share. -/
def tail (mem : Memory) (get64 : Nat → Option U64) (get32 : Nat → Option U32) (bEnd p : Nat)
    (h64 : U64) : Option U64 := do
  let (p, h64) ← whileBlocks 8 (fun p h64 => (get64 p).map (mixLong h64)) bEnd p h64
  let (p, h64) ← tailWord get32 bEnd p h64
  let (_, h64) ← whileBlocks 1 (fun p h64 => (mem p).map (mixByte h64)) bEnd p h64
  return avalanche h64

/-- The hash of what is in memory (source `XXH64_endian_align`). -/
def endian_align (cpu : Endianess) (mem : Memory) (input len : Nat) (seed : U64) (endian : Endianess)
    (align : Alignment) : Option U64 := do
  let get64 := readLE64_align cpu mem endian align
  let get32 := readLE32_align cpu mem endian align
  let bEnd := input + len
  let (p, h64) ←
    if len ≥ 32 then do
      let (p, v) ← doBlocks 32 (stripe 8 round get64) (bEnd - 32) input (init seed)
      pure (p, merge v)
    else pure (input, seed + PRIME64_5)
  tail mem get64 get32 bEnd p (h64 + BitVec.ofNat 64 len)

end XXH64

/-- The hash of what is in memory (source `XXH64`). -/
def XXH64 (m : Machine) (mem : Memory) (input len : Nat) (seed : U64) : Option U64 :=
  if m.force_align_check ∧ input % 8 = 0 then
    match m.endian with
    | .littleEndian => XXH64.endian_align m.endian mem input len seed .littleEndian .aligned
    | .bigEndian => XXH64.endian_align m.endian mem input len seed .bigEndian .aligned
  else
    match m.endian with
    | .littleEndian => XXH64.endian_align m.endian mem input len seed .littleEndian .unaligned
    | .bigEndian => XXH64.endian_align m.endian mem input len seed .bigEndian .unaligned

/-! ## The hash of a list -/

namespace XXH64

/-- One word of four bytes is taken from the rest, if it has one. -/
def restWord (r : U64 × List BYTE) : U64 × List BYTE :=
  if 4 ≤ r.2.length then (mixWord r.1 (leWord 32 (r.2.take 4)), r.2.drop 4) else r

/-- The words of the rest are mixed in, then its bytes. -/
def finish (h64 : U64) (rest : List BYTE) : U64 :=
  let r := restWord (feed 8 (fun h64 bs => mixLong h64 (leWord 64 bs)) (h64, []) rest)
  avalanche (r.2.foldl mixByte r.1)

/-- The hash before the rest is mixed in. -/
def started (seed : U64) (v : Accs 64) (large : Bool) (total : U64) : U64 :=
  (if large then merge v else seed + PRIME64_5) + total

/-- The accumulators and the rest behind the stripes of a list. -/
def stripes (seed : U64) (xs : List BYTE) : Accs 64 × List BYTE :=
  feed 32 (absorb 8 round) (init seed, []) xs

end XXH64

/-- The hash of a list of bytes. -/
def hash64 (seed : U64) (xs : List BYTE) : U64 :=
  let r := XXH64.stripes seed xs
  XXH64.finish (XXH64.started seed r.1 (decide (32 ≤ xs.length)) (BitVec.ofNat 64 xs.length)) r.2

/-! ## The function over memory -/

namespace XXH64
variable {cpu : Endianess} {mem : Memory} {align : Alignment} {p : Nat}

/-- What is aligned for eight bytes is aligned for four. -/
lemma fits_half (h : XXH32.Fits 8 align p) : XXH32.Fits 4 align p := by
  intro ha
  have h := h ha
  omega

lemma tailWord_eq (cpu : Endianess) (ha : XXH32.Fits 4 align p) {xs : List BYTE} (h : Holds mem p xs) (h64 : U64) :
    ∃ q, tailWord (readLE32_align cpu mem cpu align) (p + xs.length) p h64 =
        some (q, (restWord (h64, xs)).1) ∧
      q + (restWord (h64, xs)).2.length = p + xs.length ∧ Holds mem q (restWord (h64, xs)).2 := by
  rw [tailWord, restWord]
  by_cases hle : 4 ≤ xs.length
  · have hread : readLE32_align cpu mem cpu align p = some (leWord 32 (xs.take 4)) :=
      readLE32_align_eq (h.take 4) (List.length_take_of_le hle) ha
    have hle' : 4 ≤ (h64, xs).2.length := hle
    rw [if_pos hle', if_pos (by omega), hread]
    refine ⟨p + 4, rfl, ?_, h.drop hle⟩
    show p + 4 + (xs.drop 4).length = _
    rw [List.length_drop]
    omega
  · have hle' : ¬ 4 ≤ (h64, xs).2.length := hle
    rw [if_neg hle', if_neg (by omega)]
    exact ⟨p, rfl, rfl, h⟩

/-- The part behind the stripes is what it is for the list of the bytes that are left. -/
lemma tail_eq (ha : XXH32.Fits 8 align p) {xs : List BYTE} (h : Holds mem p xs) (h64 : U64) :
    tail mem (readLE64_align cpu mem cpu align) (readLE32_align cpu mem cpu align) (p + xs.length) p
      h64 = some (finish h64 xs) := by
  obtain ⟨q, hq, heq, haq, hholds⟩ := whileBlocks_eq 8
    (fun p h64 => (readLE64_align cpu mem cpu align p).map (mixLong h64))
    (fun h64 bs => mixLong h64 (leWord 64 bs)) (A := XXH32.Fits 8 align) (fun p hp => hp.add 1)
    (fun p s bs hp hlen hbs => by rw [readLE64_align_eq hbs hlen hp]; rfl) ha h h64
  obtain ⟨q', hq', heq', hholds'⟩ := tailWord_eq cpu (fits_half haq) hholds
    (feed 8 (fun h64 bs => mixLong h64 (leWord 64 bs)) (h64, []) xs).1
  rw [tail, hq, ← heq]
  show (tailWord _ _ q _).bind _ = _
  rw [hq', ← heq']
  show (whileBlocks 1 _ _ q' _).bind _ = _
  rw [whileBlocks_one mixByte hholds']
  rfl

/-- The function over memory computes the hash of the list that the memory holds. -/
lemma endian_align_eq {input : Nat} (ha : XXH32.Fits 8 align input) {xs : List BYTE}
    (h : Holds mem input xs) (seed : U64) :
    endian_align cpu mem input xs.length seed cpu align = some (hash64 seed xs) := by
  obtain ⟨q, hq, heq, haq, hholds⟩ := whileBlocks_eq 32
    (stripe 8 round (readLE64_align cpu mem cpu align)) (absorb 8 round)
    (A := XXH32.Fits 8 align) (fun p hp => hp.add 4)
    (fun p v bs hp hlen hbs => stripe_eq (A := XXH32.Fits 8 align) (fun p hp => hp.add 1)
      (fun p bs hp hlen hbs => readLE64_align_eq hbs hlen hp) hp hlen hbs) ha h (init seed)
  rw [endian_align]
  by_cases hlarge : 32 ≤ xs.length
  · have hloop := doBlocks_eq_while 32 (stripe 8 round (readLE64_align cpu mem cpu align))
      (show input ≤ input + xs.length - 32 by omega) (init seed)
    rw [Nat.sub_add_cancel (by omega), hq] at hloop
    rw [if_pos hlarge, hloop]
    show tail mem _ _ (input + xs.length) q _ = _
    rw [← heq, tail_eq haq hholds, hash64, started, if_pos (decide_eq_true hlarge)]
    rfl
  · have hrest : stripes seed xs = (init seed, xs) := by
      rw [stripes, feed_short 32 _ (by rw [List.length_nil]; omega), List.nil_append]
    rw [if_neg hlarge]
    show tail mem _ _ (input + xs.length) input _ = _
    rw [tail_eq ha h, hash64, hrest, started, if_neg (by simp [hlarge])]

end XXH64

/-- On every machine, and for bytes at any address, the function reads no byte that is not there, loads
    no word from an address that is not aligned, and returns the hash of the list of the bytes. -/
theorem XXH64_eq (m : Machine) {mem : Memory} {input : Nat} {xs : List BYTE} (h : Holds mem input xs)
    (seed : U64) : XXH64 m mem input xs.length seed = some (hash64 seed xs) := by
  rw [XXH64]
  split
  · rename_i hc
    have ha : XXH32.Fits 8 .aligned input := fun _ => hc.2
    cases hm : m.endian <;> exact XXH64.endian_align_eq ha h seed
  · have ha : XXH32.Fits 8 .unaligned input := XXH32.fits_unaligned 8 input
    cases hm : m.endian <;> exact XXH64.endian_align_eq ha h seed

/-- The hash of a path, at an aligned address on a processor with the upper bytes in front. -/
theorem XXH64_eq_path :
    XXH64 ⟨.bigEndian, true⟩ (placed 1000 Demo.path) 1000 16 0#64 = some (hash64 0#64 Demo.path) :=
  XXH64_eq ⟨.bigEndian, true⟩ (holds_placed 1000 Demo.path) 0#64

end SampApi.XXHash
