import SampApi.Lib.Blocks
import SampApi.Lib.Word

/-!
# Memory access of the hash function

Model of the memory access functions of `src/share/xxhash.c`. A read takes the bytes at an address in
the order of the processor and swaps them where that is not the order of the hash, so that
`XXH_readLE32` is the word of the bytes, the least significant first, on every processor
(`readLE32_align_eq`). A read is `none` if a byte is not there, or if a word is loaded directly from an
address that is not aligned.

The reads go through `memcpy`, as they do unless `XXH_FORCE_MEMORY_ACCESS` is set, and the swaps are
the portable ones.
-/

namespace SampApi.XXHash
open Lib

abbrev BYTE := BitVec 8

abbrev U32 := BitVec 32

abbrev U64 := BitVec 64

/-- The bytes that can be read. -/
abbrev Memory := Nat → Option BYTE

/-- Byte orders (source `XXH_endianess`). -/
inductive Endianess where
  | bigEndian
  | littleEndian
  deriving DecidableEq, Repr

/-- Whether an address is known to be aligned (source `XXH_alignment`). -/
inductive Alignment where
  | aligned
  | unaligned
  deriving DecidableEq, Repr

/-- What the library is compiled for: the byte order of the processor (source
    `XXH_CPU_LITTLE_ENDIAN`), and whether it looks for aligned input (source
    `XXH_FORCE_ALIGN_CHECK`). -/
structure Machine where
  endian : Endianess
  force_align_check : Bool
  deriving DecidableEq, Repr

/-- Bytes in memory. -/
structure Piece where
  mem : Memory
  input : Nat
  bytes : List BYTE
  holds : Holds mem input bytes

/-! ## Words of a processor -/

namespace Endianess

/-- The word that a processor makes of some bytes. -/
def word (cpu : Endianess) (w : Nat) (bs : List BYTE) : BitVec w :=
  match cpu with
  | littleEndian => leWord w bs
  | bigEndian => leWord w bs.reverse

/-- The bytes that a processor makes of a word. -/
def bytes (cpu : Endianess) (n : Nat) {w : Nat} (x : BitVec w) : List BYTE :=
  match cpu with
  | littleEndian => leBytes n x
  | bigEndian => (leBytes n x).reverse

end Endianess

/-! ## Swaps -/

/-- Reverses the bytes of a word (source `XXH_swap32`). -/
def swap32 (x : U32) : U32 :=
  ((x <<< 24) &&& 0xff000000#32) ||| ((x <<< 8) &&& 0x00ff0000#32) |||
    ((x >>> 8) &&& 0x0000ff00#32) ||| ((x >>> 24) &&& 0x000000ff#32)

/-- Reverses the bytes of a word (source `XXH_swap64`). -/
def swap64 (x : U64) : U64 :=
  ((x <<< 56) &&& 0xff00000000000000#64) ||| ((x <<< 40) &&& 0x00ff000000000000#64) |||
    ((x <<< 24) &&& 0x0000ff0000000000#64) ||| ((x <<< 8) &&& 0x000000ff00000000#64) |||
    ((x >>> 8) &&& 0x00000000ff000000#64) ||| ((x >>> 24) &&& 0x0000000000ff0000#64) |||
    ((x >>> 40) &&& 0x000000000000ff00#64) ||| ((x >>> 56) &&& 0x00000000000000ff#64)

lemma getLsbD_swap32 (x : U32) {i : Nat} (hi : i < 32) :
    (swap32 x).getLsbD i = x.getLsbD (8 * (3 - i / 8) + i % 8) := by
  simp only [swap32, BitVec.getLsbD_or, BitVec.getLsbD_and, BitVec.getLsbD_shiftLeft,
    BitVec.getLsbD_ushiftRight]
  interval_cases i <;> simp

lemma getLsbD_swap64 (x : U64) {i : Nat} (hi : i < 64) :
    (swap64 x).getLsbD i = x.getLsbD (8 * (7 - i / 8) + i % 8) := by
  simp only [swap64, BitVec.getLsbD_or, BitVec.getLsbD_and, BitVec.getLsbD_shiftLeft,
    BitVec.getLsbD_ushiftRight]
  interval_cases i <;> simp

/-- Swapping bytes reverses them. -/
lemma swap32_leWord {bs : List BYTE} (h : bs.length = 4) :
    swap32 (leWord 32 bs.reverse) = leWord 32 bs := by
  refine BitVec.eq_of_getLsbD_eq fun i hi => ?_
  have hlt : i / 8 < bs.length := by omega
  have hdiv : (8 * (3 - i / 8) + i % 8) / 8 = bs.length - 1 - i / 8 := by omega
  have hmod : (8 * (3 - i / 8) + i % 8) % 8 = i % 8 := by omega
  have hlt' : 8 * (3 - i / 8) + i % 8 < 32 := by omega
  rw [getLsbD_swap32 _ hi, getLsbD_leWord, getLsbD_leWord, hdiv, hmod,
    List.getElem?_reverse (by omega), decide_eq_true hlt', decide_eq_true hi,
    show bs.length - 1 - (bs.length - 1 - i / 8) = i / 8 by omega]

lemma swap64_leWord {bs : List BYTE} (h : bs.length = 8) :
    swap64 (leWord 64 bs.reverse) = leWord 64 bs := by
  refine BitVec.eq_of_getLsbD_eq fun i hi => ?_
  have hlt : i / 8 < bs.length := by omega
  have hdiv : (8 * (7 - i / 8) + i % 8) / 8 = bs.length - 1 - i / 8 := by omega
  have hmod : (8 * (7 - i / 8) + i % 8) % 8 = i % 8 := by omega
  have hlt' : 8 * (7 - i / 8) + i % 8 < 64 := by omega
  rw [getLsbD_swap64 _ hi, getLsbD_leWord, getLsbD_leWord, hdiv, hmod,
    List.getElem?_reverse (by omega), decide_eq_true hlt', decide_eq_true hi,
    show bs.length - 1 - (bs.length - 1 - i / 8) = i / 8 by omega]

/-! ## Reads -/

/-- Copies a word out of memory (source `XXH_read32`). -/
def read32 (cpu : Endianess) (mem : Memory) (p : Nat) : Option U32 :=
  (loadMany mem p 4).map (cpu.word 32)

/-- Copies a word out of memory (source `XXH_read64`). -/
def read64 (cpu : Endianess) (mem : Memory) (p : Nat) : Option U64 :=
  (loadMany mem p 8).map (cpu.word 64)

/-- Loads a word directly, from an aligned address (source `*(const U32*)ptr`). -/
def load32 (cpu : Endianess) (mem : Memory) (p : Nat) : Option U32 :=
  if p % 4 = 0 then read32 cpu mem p else none

/-- Loads a word directly, from an aligned address (source `*(const U64*)ptr`). -/
def load64 (cpu : Endianess) (mem : Memory) (p : Nat) : Option U64 :=
  if p % 8 = 0 then read64 cpu mem p else none

/-- Reads a word whose least significant byte is the first (source `XXH_readLE32_align`). -/
def readLE32_align (cpu : Endianess) (mem : Memory) (endian : Endianess) (align : Alignment)
    (p : Nat) : Option U32 :=
  match align, endian with
  | .unaligned, .littleEndian => read32 cpu mem p
  | .unaligned, .bigEndian => (read32 cpu mem p).map swap32
  | .aligned, .littleEndian => load32 cpu mem p
  | .aligned, .bigEndian => (load32 cpu mem p).map swap32

/-- Reads a word whose least significant byte is the first (source `XXH_readLE64_align`). -/
def readLE64_align (cpu : Endianess) (mem : Memory) (endian : Endianess) (align : Alignment)
    (p : Nat) : Option U64 :=
  match align, endian with
  | .unaligned, .littleEndian => read64 cpu mem p
  | .unaligned, .bigEndian => (read64 cpu mem p).map swap64
  | .aligned, .littleEndian => load64 cpu mem p
  | .aligned, .bigEndian => (load64 cpu mem p).map swap64

/-- Reads a word whose most significant byte is the first (source `XXH_readBE32`). -/
def readBE32 (cpu : Endianess) (mem : Memory) (p : Nat) : Option U32 :=
  match cpu with
  | .littleEndian => (read32 cpu mem p).map swap32
  | .bigEndian => read32 cpu mem p

/-- Reads a word whose most significant byte is the first (source `XXH_readBE64`). -/
def readBE64 (cpu : Endianess) (mem : Memory) (p : Nat) : Option U64 :=
  match cpu with
  | .littleEndian => (read64 cpu mem p).map swap64
  | .bigEndian => read64 cpu mem p

section Reads
variable {cpu : Endianess} {mem : Memory} {p : Nat} {bs : List BYTE}

lemma read32_eq (h : Holds mem p bs) (hlen : bs.length = 4) :
    read32 cpu mem p = some (cpu.word 32 bs) := by
  rw [read32, ← hlen, h.loadMany]
  rfl

lemma read64_eq (h : Holds mem p bs) (hlen : bs.length = 8) :
    read64 cpu mem p = some (cpu.word 64 bs) := by
  rw [read64, ← hlen, h.loadMany]
  rfl

/-- A read of four bytes that are there is their word, whatever the processor is. -/
theorem readLE32_align_eq (h : Holds mem p bs) (hlen : bs.length = 4) {align : Alignment}
    (ha : align = .aligned → p % 4 = 0) :
    readLE32_align cpu mem cpu align p = some (leWord 32 bs) := by
  have hread : read32 cpu mem p = some (cpu.word 32 bs) := read32_eq h hlen
  have hload : align = .aligned → load32 cpu mem p = read32 cpu mem p := fun he => if_pos (ha he)
  cases cpu with
  | littleEndian =>
    cases align with
    | aligned => exact (hload rfl).trans hread
    | unaligned => exact hread
  | bigEndian =>
    have hswap := swap32_leWord hlen
    cases align with
    | aligned =>
      rw [readLE32_align, hload rfl, hread]
      exact congrArg some hswap
    | unaligned =>
      rw [readLE32_align, hread]
      exact congrArg some hswap

/-- A read of eight bytes that are there is their word, whatever the processor is. -/
theorem readLE64_align_eq (h : Holds mem p bs) (hlen : bs.length = 8) {align : Alignment}
    (ha : align = .aligned → p % 8 = 0) :
    readLE64_align cpu mem cpu align p = some (leWord 64 bs) := by
  have hread : read64 cpu mem p = some (cpu.word 64 bs) := read64_eq h hlen
  have hload : align = .aligned → load64 cpu mem p = read64 cpu mem p := fun he => if_pos (ha he)
  cases cpu with
  | littleEndian =>
    cases align with
    | aligned => exact (hload rfl).trans hread
    | unaligned => exact hread
  | bigEndian =>
    have hswap := swap64_leWord hlen
    cases align with
    | aligned =>
      rw [readLE64_align, hload rfl, hread]
      exact congrArg some hswap
    | unaligned =>
      rw [readLE64_align, hread]
      exact congrArg some hswap

end Reads

/-! ## The canonical representation -/

/-- The bytes of a hash that are the same on all processors (source `XXH32_canonicalFromHash`). -/
def canonicalFromHash32 (cpu : Endianess) (hash : U32) : List BYTE :=
  match cpu with
  | .littleEndian => cpu.bytes 4 (swap32 hash)
  | .bigEndian => cpu.bytes 4 hash

/-- The hash with these bytes (source `XXH32_hashFromCanonical`). -/
def hashFromCanonical32 (cpu : Endianess) (mem : Memory) (src : Nat) : Option U32 :=
  readBE32 cpu mem src

/-- The bytes of a hash that are the same on all processors (source `XXH64_canonicalFromHash`). -/
def canonicalFromHash64 (cpu : Endianess) (hash : U64) : List BYTE :=
  match cpu with
  | .littleEndian => cpu.bytes 8 (swap64 hash)
  | .bigEndian => cpu.bytes 8 hash

/-- The hash with these bytes (source `XXH64_hashFromCanonical`). -/
def hashFromCanonical64 (cpu : Endianess) (mem : Memory) (src : Nat) : Option U64 :=
  readBE64 cpu mem src

/-- The canonical bytes are those of the hash, the most significant one first. -/
lemma canonicalFromHash32_eq (cpu : Endianess) (hash : U32) :
    canonicalFromHash32 cpu hash = (leBytes 4 hash).reverse := by
  cases cpu with
  | bigEndian => rfl
  | littleEndian =>
    have hlen : (leBytes 4 hash).reverse.length = 4 := by
      rw [List.length_reverse, length_leBytes]
    have hswap := swap32_leWord hlen
    rw [List.reverse_reverse, leWord_leBytes (by decide)] at hswap
    show leBytes 4 (swap32 hash) = _
    rw [hswap, leBytes_leWord hlen (by decide)]

lemma canonicalFromHash64_eq (cpu : Endianess) (hash : U64) :
    canonicalFromHash64 cpu hash = (leBytes 8 hash).reverse := by
  cases cpu with
  | bigEndian => rfl
  | littleEndian =>
    have hlen : (leBytes 8 hash).reverse.length = 8 := by
      rw [List.length_reverse, length_leBytes]
    have hswap := swap64_leWord hlen
    rw [List.reverse_reverse, leWord_leBytes (by decide)] at hswap
    show leBytes 8 (swap64 hash) = _
    rw [hswap, leBytes_leWord hlen (by decide)]

section Canonical
variable {cpu : Endianess} {mem : Memory} {p : Nat} {bs : List BYTE}

lemma hashFromCanonical32_eq (h : Holds mem p bs) (hlen : bs.length = 4) :
    hashFromCanonical32 cpu mem p = some (leWord 32 bs.reverse) := by
  have hread : read32 cpu mem p = some (cpu.word 32 bs) := read32_eq h hlen
  cases cpu with
  | bigEndian => exact hread
  | littleEndian =>
    have hswap := swap32_leWord ((List.length_reverse ..).trans hlen)
    rw [List.reverse_reverse] at hswap
    rw [hashFromCanonical32, readBE32, hread]
    exact congrArg some hswap

lemma hashFromCanonical64_eq (h : Holds mem p bs) (hlen : bs.length = 8) :
    hashFromCanonical64 cpu mem p = some (leWord 64 bs.reverse) := by
  have hread : read64 cpu mem p = some (cpu.word 64 bs) := read64_eq h hlen
  cases cpu with
  | bigEndian => exact hread
  | littleEndian =>
    have hswap := swap64_leWord ((List.length_reverse ..).trans hlen)
    rw [List.reverse_reverse] at hswap
    rw [hashFromCanonical64, readBE64, hread]
    exact congrArg some hswap

end Canonical

/-- Canonical bytes can be exchanged between processors: what one of them writes another one reads as
    the same hash, and four (eight) bytes that one reads another one writes again. -/
theorem canonical_exchange (cpu cpu' : Endianess) :
    (∀ (hash : U32) (mem : Memory) p, Holds mem p (canonicalFromHash32 cpu hash) →
      hashFromCanonical32 cpu' mem p = some hash) ∧
    (∀ (mem : Memory) p bs, Holds mem p bs → bs.length = 4 →
      (hashFromCanonical32 cpu mem p).map (canonicalFromHash32 cpu') = some bs) ∧
    (∀ (hash : U64) (mem : Memory) p, Holds mem p (canonicalFromHash64 cpu hash) →
      hashFromCanonical64 cpu' mem p = some hash) ∧
    (∀ (mem : Memory) p bs, Holds mem p bs → bs.length = 8 →
      (hashFromCanonical64 cpu mem p).map (canonicalFromHash64 cpu') = some bs) := by
  refine ⟨fun hash mem p h => ?_, fun mem p bs h hlen => ?_, fun hash mem p h => ?_,
    fun mem p bs h hlen => ?_⟩
  · rw [canonicalFromHash32_eq] at h
    rw [hashFromCanonical32_eq h (by rw [List.length_reverse, length_leBytes]), List.reverse_reverse,
      leWord_leBytes (by decide)]
  · have hlen' : bs.reverse.length = 4 := (List.length_reverse ..).trans hlen
    rw [hashFromCanonical32_eq h hlen, Option.map_some, canonicalFromHash32_eq,
      leBytes_leWord hlen' (by decide), List.reverse_reverse]
  · rw [canonicalFromHash64_eq] at h
    rw [hashFromCanonical64_eq h (by rw [List.length_reverse, length_leBytes]), List.reverse_reverse,
      leWord_leBytes (by decide)]
  · have hlen' : bs.reverse.length = 8 := (List.length_reverse ..).trans hlen
    rw [hashFromCanonical64_eq h hlen, Option.map_some, canonicalFromHash64_eq,
      leBytes_leWord hlen' (by decide), List.reverse_reverse]

/-- A hash that one processor writes and another one reads. -/
theorem canonical_exchange_hash :
    hashFromCanonical32 .bigEndian (placed 3 (canonicalFromHash32 .littleEndian 2398126755#32)) 3 =
      some 2398126755#32 :=
  (canonical_exchange .littleEndian .bigEndian).1 2398126755#32 _ 3 (holds_placed 3 _)

end SampApi.XXHash
