import SampApi.XXHash.Hash64
import SampApi.XXHash.Stream32

/-!
# The 64-bit hash of a stream

Model of `XXH64_reset`, `XXH64_update` and `XXH64_digest` in `src/share/xxhash.c`. There is no flag here
for streams with a stripe: the digest asks the sum of the lengths, which begins again at zero after
`2 ^ 64` bytes. Up to there the digest is what `XXH64` returns for all bytes at once
(`XXH64.digest64_eq`).
-/

namespace SampApi.XXHash
open Lib

namespace XXH64

/-- The state of a stream (source `XXH64_state_t`). -/
structure State extends Buffer 64 where
  total_len : U64
  deriving DecidableEq, Repr

/-- The state of an empty stream (source `XXH64_reset`). -/
def reset (seed : U64) : State where
  v := init seed
  mem := List.replicate 32 0
  memsize := 0
  total_len := 0

/-- Takes a piece in (source `XXH64_update_endian`). -/
def update_endian (cpu : Endianess) (state : State) (mem : Memory) (input len : Nat)
    (endian : Endianess) : Option State := do
  let total_len := state.total_len + BitVec.ofNat 64 len
  let b ← state.toBuffer.update 8 round (fun mem => readLE64_align cpu mem endian .unaligned)
    (fun p bEnd => decide (p + 32 ≤ bEnd)) mem input len
  return { toBuffer := b, total_len }

/-- Takes a piece in (source `XXH64_update`). -/
def update (m : Machine) (state : State) (mem : Memory) (input len : Nat) : Option State :=
  match m.endian with
  | .littleEndian => update_endian m.endian state mem input len .littleEndian
  | .bigEndian => update_endian m.endian state mem input len .bigEndian

/-- The hash of a stream (source `XXH64_digest_endian`). -/
def digest_endian (cpu : Endianess) (state : State) (endian : Endianess) : Option U64 :=
  let mem := placed 0 state.mem
  let h64 := if state.total_len.toNat ≥ 32 then merge state.v else state.v.v3 + PRIME64_5
  tail mem (readLE64_align cpu mem endian .unaligned) (readLE32_align cpu mem endian .unaligned)
    state.memsize 0 (h64 + state.total_len)

/-- The hash of a stream (source `XXH64_digest`). -/
def digest (m : Machine) (state : State) : Option U64 :=
  match m.endian with
  | .littleEndian => digest_endian m.endian state .littleEndian
  | .bigEndian => digest_endian m.endian state .bigEndian

/-- The state that has taken pieces in. -/
def stream (m : Machine) (seed : U64) (cs : List Piece) : Option State :=
  cs.foldlM (fun s c => update m s c.mem c.input c.bytes.length) (reset seed)

/-! ## What a state represents -/

/-- The state is that of a stream of these bytes. -/
structure Represents (seed : U64) (xs : List BYTE) (s : State) : Prop where
  sound : s.Sound 8
  held : s.held = stripes seed xs
  total : s.total_len = BitVec.ofNat 64 xs.length

lemma reset_represents (seed : U64) : Represents seed [] (reset seed) :=
  ⟨⟨rfl, Nat.succ_pos 31⟩, rfl, rfl⟩

variable {seed : U64} {xs : List BYTE} {s : State}

/-- A piece is taken in. -/
lemma Represents.update (h : Represents seed xs s) (m : Machine) (c : Piece) :
    ∃ t, XXH64.update m s c.mem c.input c.bytes.length = some t ∧ Represents seed (xs ++ c.bytes) t := by
  have hread : ∀ mem p bs, bs.length = 8 → Holds mem p bs →
      readLE64_align m.endian mem m.endian .unaligned p = some (leWord 64 bs) :=
    fun mem p bs hlen hbs => readLE64_align_eq hbs hlen (XXH32.fits_unaligned 8 p)
  obtain ⟨b, hb, hsound, hheld⟩ := Buffer.update_eq round hread (fun _ _ => rfl) h.sound c.holds
  have hendian : XXH64.update m s c.mem c.input c.bytes.length =
      update_endian m.endian s c.mem c.input c.bytes.length m.endian := by
    rw [XXH64.update]
    cases m.endian <;> rfl
  rw [hendian, update_endian, hb]
  refine ⟨_, rfl, ⟨hsound, ?_, ?_⟩⟩
  · show b.held = _
    rw [hheld, h.held]
    exact (feed_append ..).symm
  · show s.total_len + _ = _
    rw [h.total, List.length_append, BitVec.ofNat_add]

/-- The digest is the hash of the bytes that the state represents, if their number is not lost. -/
lemma Represents.digest (h : Represents seed xs s) (m : Machine) (hlt : xs.length < 2 ^ 64) :
    XXH64.digest m s = some (hash64 seed xs) := by
  have hendian : XXH64.digest m s = digest_endian m.endian s m.endian := by
    rw [XXH64.digest]
    cases m.endian <;> rfl
  have hlen : (s.mem.take s.memsize).length = s.memsize := h.sound.held_length
  have hv : s.v = (stripes seed xs).1 := congrArg Prod.fst h.held
  have hrest : s.mem.take s.memsize = (stripes seed xs).2 := congrArg Prod.snd h.held
  have htotal : s.total_len.toNat = xs.length := by
    rw [h.total, BitVec.toNat_ofNat, Nat.mod_eq_of_lt hlt]
  have hsmall : ¬ 32 ≤ xs.length → (stripes seed xs).1.v3 = seed := by
    intro hshort
    rw [stripes, feed_short 32 _ (by rw [List.length_nil]; omega)]
    exact BitVec.add_zero seed
  have hstart : (if s.total_len.toNat ≥ 32 then merge s.v else s.v.v3 + PRIME64_5) + s.total_len =
      started seed (stripes seed xs).1 (decide (32 ≤ xs.length)) (BitVec.ofNat 64 xs.length) := by
    rw [htotal, h.total, hv, started]
    by_cases hl : 32 ≤ xs.length
    · rw [if_pos hl, if_pos (decide_eq_true hl)]
    · rw [if_neg hl, if_neg (by simp [hl]), hsmall hl]
  have htail : tail _ (readLE64_align m.endian _ m.endian .unaligned) _ _ 0 _ = _ :=
    tail_eq (XXH32.fits_unaligned 8 0) ((holds_placed 0 s.mem).take s.memsize)
      (started seed (stripes seed xs).1 (decide (32 ≤ xs.length)) (BitVec.ofNat 64 xs.length))
  rw [Nat.zero_add, hlen, hrest, ← hstart] at htail
  rw [hendian, hash64, ← hstart]
  exact htail

/-- However less than `2 ^ 64` bytes are cut into pieces, on every machine and wherever the pieces are,
    no read and no copy of the stream goes where it must not, and the digest is what `XXH64` returns for
    all bytes at once, on whatever machine and from whatever address. -/
theorem digest64_eq (m : Machine) (seed : U64) (cs : List Piece)
    (hlt : (cs.flatMap Piece.bytes).length < 2 ^ 64) :
    ∃ s, stream m seed cs = some s ∧ digest m s = some (hash64 seed (cs.flatMap Piece.bytes)) ∧
      ∀ (m' : Machine) (c : Piece), c.bytes = cs.flatMap Piece.bytes →
        XXH64 m' c.mem c.input c.bytes.length seed = digest m s := by
  obtain ⟨s, hs, h⟩ := foldlM_pieces (fun _ _ c h => h.update m c) (reset_represents seed) cs
  rw [List.nil_append] at h
  have hdigest := h.digest m hlt
  refine ⟨s, hs, hdigest, fun m' c hc => ?_⟩
  rw [hdigest, XXH64_eq m' c.holds seed, hc]

/-- A path in two pieces. -/
theorem digest64_eq_path :
    ∃ s, stream ⟨.littleEndian, false⟩ 0#64
        [⟨_, 8, [47, 112, 108, 97, 121], holds_placed 8 _⟩,
          ⟨_, 3, [101, 114, 47, 107, 105, 99, 107, 47, 98, 111, 98], holds_placed 3 _⟩] = some s ∧
      digest ⟨.littleEndian, false⟩ s =
        XXH64 ⟨.bigEndian, true⟩ (placed 1000 Demo.path) 1000 16 0#64 := by
  obtain ⟨s, hs, -, h⟩ := digest64_eq ⟨.littleEndian, false⟩ 0#64
    [⟨_, 8, [47, 112, 108, 97, 121], holds_placed 8 _⟩,
      ⟨_, 3, [101, 114, 47, 107, 105, 99, 107, 47, 98, 111, 98], holds_placed 3 _⟩] (by decide)
  exact ⟨s, hs, (h ⟨.bigEndian, true⟩ ⟨_, 1000, Demo.path, holds_placed 1000 _⟩ rfl).symm⟩

end XXH64
end SampApi.XXHash
