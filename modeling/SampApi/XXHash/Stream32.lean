import SampApi.XXHash.Buffer
import SampApi.XXHash.Hash32

/-!
# The 32-bit hash of a stream

Model of `XXH32_reset`, `XXH32_update` and `XXH32_digest` in `src/share/xxhash.c`. A state that has taken
some pieces in represents their bytes (`XXH32.Represents`), however they were cut, so that the digest is
what `XXH32` returns for all of them at once (`XXH32.digest32_eq`).
-/

namespace SampApi.XXHash
open Lib

namespace XXH32

/-- The state of a stream (source `XXH32_state_t`); `large_len` is a flag. -/
structure State extends Buffer 32 where
  total_len_32 : U32
  large_len : Bool
  deriving DecidableEq, Repr

/-- The state of an empty stream (source `XXH32_reset`). -/
def reset (seed : U32) : State where
  v := init seed
  mem := List.replicate 16 0
  memsize := 0
  total_len_32 := 0
  large_len := false

/-- Takes a piece in (source `XXH32_update_endian`). -/
def update_endian (cpu : Endianess) (state : State) (mem : Memory) (input len : Nat)
    (endian : Endianess) : Option State := do
  let total_len_32 := state.total_len_32 + BitVec.ofNat 32 len
  let large_len := state.large_len || (decide (len ≥ 16) || decide (total_len_32.toNat ≥ 16))
  let b ← state.toBuffer.update 4 round (fun mem => readLE32_align cpu mem endian .unaligned)
    (fun p bEnd => decide ((p : Int) ≤ (bEnd : Int) - 16)) mem input len
  return { toBuffer := b, total_len_32, large_len }

/-- Takes a piece in (source `XXH32_update`). -/
def update (m : Machine) (state : State) (mem : Memory) (input len : Nat) : Option State :=
  match m.endian with
  | .littleEndian => update_endian m.endian state mem input len .littleEndian
  | .bigEndian => update_endian m.endian state mem input len .bigEndian

/-- The hash of a stream (source `XXH32_digest_endian`). -/
def digest_endian (cpu : Endianess) (state : State) (endian : Endianess) : Option U32 :=
  let mem := placed 0 state.mem
  let h32 := if state.large_len then state.v.merge else state.v.v3 + PRIME32_5
  tail mem (readLE32_align cpu mem endian .unaligned) state.memsize 0 (h32 + state.total_len_32)

/-- The hash of a stream (source `XXH32_digest`). -/
def digest (m : Machine) (state : State) : Option U32 :=
  match m.endian with
  | .littleEndian => digest_endian m.endian state .littleEndian
  | .bigEndian => digest_endian m.endian state .bigEndian

/-- The state that has taken pieces in. -/
def stream (m : Machine) (seed : U32) (cs : List Piece) : Option State :=
  cs.foldlM (fun s c => update m s c.mem c.input c.bytes.length) (reset seed)

/-! ## What a state represents -/

/-- The state is that of a stream of these bytes. -/
structure Represents (seed : U32) (xs : List BYTE) (s : State) : Prop where
  sound : s.Sound 4
  held : s.held = stripes seed xs
  total : s.total_len_32 = BitVec.ofNat 32 xs.length
  large : s.large_len = decide (16 ≤ xs.length)

lemma reset_represents (seed : U32) : Represents seed [] (reset seed) :=
  ⟨⟨rfl, Nat.succ_pos 15⟩, rfl, rfl, rfl⟩

variable {seed : U32} {xs : List BYTE} {s : State}

/-- The flag is set by the first piece with which there are sixteen bytes, also when the sum of the
    lengths has begun again at zero. -/
lemma large_iff (n k : Nat) :
    (decide (16 ≤ n) || (decide (k ≥ 16) || decide ((BitVec.ofNat 32 (n + k)).toNat ≥ 16))) =
      decide (16 ≤ n + k) := by
  rw [BitVec.toNat_ofNat, Bool.eq_iff_iff]
  simp only [Bool.or_eq_true, decide_eq_true_eq]
  omega

/-- A piece is taken in. -/
lemma Represents.update (h : Represents seed xs s) (m : Machine) (c : Piece) :
    ∃ t, XXH32.update m s c.mem c.input c.bytes.length = some t ∧ Represents seed (xs ++ c.bytes) t := by
  have hmore : ∀ p bEnd : Nat,
      decide ((p : Int) ≤ (bEnd : Int) - 16) = decide (p + 4 * 4 ≤ bEnd) := by
    intro p bEnd
    rw [decide_eq_decide]
    omega
  have hread : ∀ mem p bs, bs.length = 4 → Holds mem p bs →
      readLE32_align m.endian mem m.endian .unaligned p = some (leWord 32 bs) :=
    fun mem p bs hlen hbs => readLE32_align_eq hbs hlen (fits_unaligned 4 p)
  obtain ⟨b, hb, hsound, hheld⟩ := Buffer.update_eq round hread hmore h.sound c.holds
  have hendian : XXH32.update m s c.mem c.input c.bytes.length =
      update_endian m.endian s c.mem c.input c.bytes.length m.endian := by
    rw [XXH32.update]
    cases m.endian <;> rfl
  rw [hendian, update_endian, hb]
  refine ⟨_, rfl, ⟨hsound, ?_, ?_, ?_⟩⟩
  · show b.held = _
    rw [hheld, h.held]
    exact (feed_append ..).symm
  · show s.total_len_32 + _ = _
    rw [h.total, List.length_append, BitVec.ofNat_add]
  · show (s.large_len || _) = _
    rw [h.large, h.total, ← BitVec.ofNat_add, large_iff, List.length_append]

/-- The digest is the hash of the bytes that the state represents. -/
lemma Represents.digest (h : Represents seed xs s) (m : Machine) :
    XXH32.digest m s = some (hash32 seed xs) := by
  have hendian : XXH32.digest m s = digest_endian m.endian s m.endian := by
    rw [XXH32.digest]
    cases m.endian <;> rfl
  have hlen : (s.mem.take s.memsize).length = s.memsize := h.sound.held_length
  have hv : s.v = (stripes seed xs).1 := congrArg Prod.fst h.held
  have hrest : s.mem.take s.memsize = (stripes seed xs).2 := congrArg Prod.snd h.held
  -- below sixteen bytes no stripe was mixed in, and the third accumulator is still the seed
  have hsmall : ¬ 16 ≤ xs.length → (stripes seed xs).1.v3 = seed := by
    intro hlt
    rw [stripes, feed_short 16 _ (by rw [List.length_nil]; omega)]
    exact BitVec.add_zero seed
  have hstart : (if s.large_len then s.v.merge else s.v.v3 + PRIME32_5) + s.total_len_32 =
      started seed (stripes seed xs).1 (decide (16 ≤ xs.length)) (BitVec.ofNat 32 xs.length) := by
    rw [h.large, h.total, hv, started]
    by_cases hl : 16 ≤ xs.length
    · rw [if_pos (decide_eq_true hl), if_pos (decide_eq_true hl)]
    · rw [if_neg (by simp [hl]), if_neg (by simp [hl]), hsmall hl]
  have htail : tail _ (readLE32_align m.endian _ m.endian .unaligned) _ 0 _ = _ :=
    tail_eq (fits_unaligned 4 0) ((holds_placed 0 s.mem).take s.memsize)
      (started seed (stripes seed xs).1 (decide (16 ≤ xs.length)) (BitVec.ofNat 32 xs.length))
  rw [Nat.zero_add, hlen, hrest, ← hstart] at htail
  rw [hendian, hash32, ← hstart]
  exact htail

/-- However a sequence of bytes is cut into pieces, on every machine and wherever the pieces are, no
    read and no copy of the stream goes where it must not, and the digest is what `XXH32` returns for all
    bytes at once, on whatever machine and from whatever address. -/
theorem digest32_eq (m : Machine) (seed : U32) (cs : List Piece) :
    ∃ s, stream m seed cs = some s ∧ digest m s = some (hash32 seed (cs.flatMap Piece.bytes)) ∧
      ∀ (m' : Machine) (c : Piece), c.bytes = cs.flatMap Piece.bytes →
        XXH32 m' c.mem c.input c.bytes.length seed = digest m s := by
  obtain ⟨s, hs, h⟩ := foldlM_pieces (fun _ _ c h => h.update m c) (reset_represents seed) cs
  rw [List.nil_append] at h
  have hdigest := h.digest m
  refine ⟨s, hs, hdigest, fun m' c hc => ?_⟩
  rw [hdigest, XXH32_eq m' c.holds seed, hc]

/-- A path in two pieces. -/
theorem digest32_eq_path :
    ∃ s, stream ⟨.littleEndian, false⟩ 17733194#32
        [⟨_, 8, [47, 112, 108, 97, 121], holds_placed 8 _⟩,
          ⟨_, 3, [101, 114, 47, 107, 105, 99, 107, 47, 98, 111, 98], holds_placed 3 _⟩] = some s ∧
      digest ⟨.littleEndian, false⟩ s =
        XXH32 ⟨.bigEndian, true⟩ (placed 1001 Demo.path) 1001 16 17733194#32 := by
  obtain ⟨s, hs, -, h⟩ := digest32_eq ⟨.littleEndian, false⟩ 17733194#32
    [⟨_, 8, [47, 112, 108, 97, 121], holds_placed 8 _⟩,
      ⟨_, 3, [101, 114, 47, 107, 105, 99, 107, 47, 98, 111, 98], holds_placed 3 _⟩]
  exact ⟨s, hs, (h ⟨.bigEndian, true⟩ ⟨_, 1001, Demo.path, holds_placed 1001 _⟩ rfl).symm⟩

end XXH32
end SampApi.XXHash
