import SampApi.XXHash.Stripes

/-!
# Buffers

The part that the two streaming functions of `src/share/xxhash.c` have in common: a state keeps the
accumulators, and the bytes that do not fill a stripe yet in a buffer of four words. `Buffer.update`
takes a piece in; what it makes of the bytes that came so far is what `feed` makes of them, in
whatever pieces they came (`Buffer.update_eq`), and no copy goes beyond the buffer.
-/

namespace SampApi.XXHash
open Lib

variable {w : Nat}

/-- The accumulators and the buffer of a state (source `mem32` or `mem64`, with `memsize`). -/
structure Buffer (w : Nat) where
  v : Accs w
  mem : List BYTE
  memsize : Nat
  deriving DecidableEq, Repr

/-- Copies `len` bytes to the position `k` of an object (source `XXH_memcpy`); there is no copy beyond its
    end. -/
def memcpy (dst : List BYTE) (k : Nat) (mem : Memory) (p len : Nat) : Option (List BYTE) := do
  let bs ← loadMany mem p len
  if k + len ≤ dst.length then some (dst.take k ++ bs ++ dst.drop (k + len)) else none

lemma memcpy_eq {dst bs : List BYTE} {k p : Nat} {mem : Memory} (h : Holds mem p bs)
    (hk : k + bs.length ≤ dst.length) :
    memcpy dst k mem p bs.length = some (dst.take k ++ bs ++ dst.drop (k + bs.length)) := by
  rw [memcpy, h.loadMany]
  exact if_pos hk

namespace Buffer

section Update
variable (n : Nat) (round : BitVec w → BitVec w → BitVec w)
  (read : Memory → Nat → Option (BitVec w))

/-- Puts bytes behind those in the buffer (source "fill in tmp buffer"). -/
def append (b : Buffer w) (mem : Memory) (input len : Nat) : Option (Buffer w) := do
  let bytes ← memcpy b.mem b.memsize mem input len
  return { b with mem := bytes, memsize := b.memsize + len }

/-- Fills the buffer up with the first bytes of a piece and mixes it in, if there is something in it
    (source "some data left from previous update"). -/
def flush (b : Buffer w) (mem : Memory) (input : Nat) : Option (Nat × Buffer w) :=
  if b.memsize ≠ 0 then do
    let bytes ← memcpy b.mem b.memsize mem input (4 * n - b.memsize)
    let v ← stripe n round (read (placed 0 bytes)) 0 b.v
    return (input + (4 * n - b.memsize), { v, mem := bytes, memsize := 0 })
  else some (input, b)

/-- Mixes in the stripes of a piece, if it has any; `more` is how the function finds out. -/
def mix [NeZero n] (more : Nat → Nat → Bool) (b : Buffer w) (mem : Memory) (bEnd p : Nat) :
    Option (Nat × Buffer w) :=
  if more p bEnd then do
    let (p, v) ← doBlocks (4 * n) (stripe n round (read mem)) (bEnd - 4 * n) p b.v
    return (p, { b with v })
  else some (p, b)

/-- Keeps the rest of a piece, if there is one. -/
def keep (b : Buffer w) (mem : Memory) (bEnd p : Nat) : Option (Buffer w) :=
  if p < bEnd then do
    let bytes ← memcpy b.mem 0 mem p (bEnd - p)
    return { b with mem := bytes, memsize := bEnd - p }
  else some b

/-- Takes a piece in (source the part of `XXH32_update_endian` and `XXH64_update_endian` behind the
    lengths). -/
def update [NeZero n] (more : Nat → Nat → Bool) (b : Buffer w) (mem : Memory) (input len : Nat) :
    Option (Buffer w) :=
  if b.memsize + len < 4 * n then b.append mem input len
  else do
    let bEnd := input + len
    let (p, b) ← b.flush n round read mem input
    let (p, b) ← b.mix n round read more mem bEnd p
    b.keep mem bEnd p

end Update

/-! ## Pieces -/

/-- The accumulators behind some bytes, and the bytes that wait. -/
def taken (n : Nat) (round : BitVec w → BitVec w → BitVec w) (s : Accs w × List BYTE)
    (xs : List BYTE) : Accs w × List BYTE := feed (4 * n) (absorb n round) s xs

/-- The accumulators, and the bytes in the buffer. -/
def held (b : Buffer w) : Accs w × List BYTE := (b.v, b.mem.take b.memsize)

/-- The buffer has room for a stripe, and is not full. -/
structure Sound (n : Nat) (b : Buffer w) : Prop where
  length : b.mem.length = 4 * n
  lt : b.memsize < 4 * n

section Pieces
variable {n : Nat} (round : BitVec w → BitVec w → BitVec w)
  {read : Memory → Nat → Option (BitVec w)} {more : Nat → Nat → Bool}
  {ys : List BYTE} {b : Buffer w} {mem : Memory} {p : Nat}

lemma Sound.held_length (hb : b.Sound n) : b.held.2.length = b.memsize :=
  List.length_take_of_le (hb.length ▸ hb.lt.le)

/-- A copy behind the bytes in the buffer. -/
lemma Sound.memcpy (hb : b.Sound n) (h : Holds mem p ys) (hle : b.memsize + ys.length ≤ 4 * n) :
    ∃ bytes, memcpy b.mem b.memsize mem p ys.length = some bytes ∧ bytes.length = 4 * n ∧
      bytes.take (b.memsize + ys.length) = b.held.2 ++ ys := by
  refine ⟨_, memcpy_eq h (hb.length ▸ hle), ?_, ?_⟩
  · have hlen := hb.length
    simp only [List.length_append, List.length_take, List.length_drop]
    omega
  · have hlen : (b.held.2 ++ ys).length = b.memsize + ys.length := by
      rw [List.length_append, hb.held_length]
    exact List.take_left' hlen

/-- A piece that does not fill the buffer waits. -/
lemma append_eq (hb : b.Sound n) (h : Holds mem p ys) (hlt : b.memsize + ys.length < 4 * n) :
    ∃ b', b.append mem p ys.length = some b' ∧ b'.Sound n ∧ b'.held = taken n round b.held ys := by
  obtain ⟨bytes, hcopy, hlen, htake⟩ := hb.memcpy h hlt.le
  refine ⟨{ b with mem := bytes, memsize := b.memsize + ys.length }, ?_, ⟨hlen, hlt⟩, ?_⟩
  · rw [append, hcopy]
    rfl
  · have hshort : taken n round b.held ys = (b.v, b.held.2 ++ ys) :=
      feed_short _ _ (show b.held.2.length + ys.length < 4 * n by rw [hb.held_length]; exact hlt)
    rw [hshort, ← htake]
    rfl

/-- What is in the buffer is mixed in, with the first bytes of a piece. -/
lemma flush_eq (hread : ∀ mem p bs, bs.length = n → Holds mem p bs → read mem p = some (leWord w bs))
    (hb : b.Sound n) (h : Holds mem p ys) (hle : 4 * n ≤ b.memsize + ys.length) :
    ∃ q b' zs, b.flush n round read mem p = some (q, b') ∧ b'.Sound n ∧ b'.memsize = 0 ∧
      q + zs.length = p + ys.length ∧ Holds mem q zs ∧
      taken n round b'.held zs = taken n round b.held ys := by
  have hlt := hb.lt
  by_cases hzero : b.memsize = 0
  · exact ⟨p, b, ys, if_neg (by simp [hzero]), hb, hzero, rfl, h, rfl⟩
  · have hlen : (ys.take (4 * n - b.memsize)).length = 4 * n - b.memsize :=
      List.length_take_of_le (by omega)
    obtain ⟨bytes, hcopy, hbytes, htake⟩ := hb.memcpy (h.take (4 * n - b.memsize)) (by omega)
    have hfull : bytes.take (4 * n) = bytes := List.take_of_length_le hbytes.le
    rw [hlen, Nat.add_sub_cancel' hlt.le, hfull] at htake
    rw [hlen] at hcopy
    have hstripe : stripe n round (read (placed 0 bytes)) 0 b.v = some (absorb n round b.v bytes) :=
      stripe_eq (A := fun _ => True) (fun _ _ => trivial)
        (fun p bs _ => hread (placed 0 bytes) p bs) trivial hbytes (holds_placed 0 bytes)
    refine ⟨p + (4 * n - b.memsize), { v := absorb n round b.v bytes, mem := bytes, memsize := 0 },
      ys.drop (4 * n - b.memsize), ?_, ⟨hbytes, show 0 < 4 * n by omega⟩, rfl, ?_, h.drop (by omega), ?_⟩
    · rw [flush, if_pos hzero, hcopy]
      show (stripe n round (read (placed 0 bytes)) 0 b.v).bind _ = _
      rw [hstripe]
      rfl
    · rw [List.length_drop]
      omega
    · have hblock : taken n round b.held (ys.take (4 * n - b.memsize)) =
          (absorb n round b.v (b.held.2 ++ ys.take (4 * n - b.memsize)), []) := by
        refine feed_block _ _ ?_ (List.ne_nil_of_length_pos (by omega))
        show b.held.2.length + _ = _
        rw [hb.held_length, hlen]
        omega
      rw [← List.take_append_drop (4 * n - b.memsize) ys, taken, taken, feed_append]
      show _ = feed _ _ (taken n round b.held _) _
      rw [hblock, ← htake, List.take_append_drop]
      rfl

/-- The stripes of a piece are mixed in. -/
lemma mix_eq [NeZero n]
    (hread : ∀ mem p bs, bs.length = n → Holds mem p bs → read mem p = some (leWord w bs))
    (hmore : ∀ p bEnd, more p bEnd = decide (p + 4 * n ≤ bEnd)) (hb : b.Sound n)
    (hempty : b.memsize = 0) (h : Holds mem p ys) :
    ∃ q b', b.mix n round read more mem (p + ys.length) p = some (q, b') ∧ b'.Sound n ∧
      b'.memsize = 0 ∧ b'.v = (taken n round b.held ys).1 ∧
      q + (taken n round b.held ys).2.length = p + ys.length ∧
      Holds mem q (taken n round b.held ys).2 := by
  have hheld : b.held = (b.v, []) := by
    rw [held, hempty, List.take_zero]
  obtain ⟨q, hq, heq, -, hholds⟩ := whileBlocks_eq (4 * n) (stripe n round (read mem))
    (absorb n round) (A := fun _ => True) (fun _ _ => trivial)
    (fun p v bs _ hlen hbs => stripe_eq (A := fun _ => True) (fun _ _ => trivial)
      (fun p bs _ => hread mem p bs) trivial hlen hbs) trivial h b.v
  rw [mix, hmore, hheld]
  by_cases hle : 4 * n ≤ ys.length
  · have hloop := doBlocks_eq_while (4 * n) (stripe n round (read mem))
      (show p ≤ p + ys.length - 4 * n by omega) b.v
    rw [Nat.sub_add_cancel (by omega), hq] at hloop
    refine ⟨q, { b with v := (taken n round (b.v, []) ys).1 }, ?_, ⟨hb.length, hb.lt⟩, hempty, rfl, heq,
      hholds⟩
    rw [if_pos (decide_eq_true (by omega)), hloop]
    rfl
  · have hshort : taken n round (b.v, []) ys = (b.v, ys) :=
      feed_short _ _ (by rw [List.length_nil]; omega)
    rw [hshort]
    refine ⟨p, b, if_neg ?_, hb, hempty, rfl, rfl, h⟩
    rw [decide_eq_true_iff]
    omega

/-- The rest of a piece is kept. -/
lemma keep_eq (hb : b.Sound n) (hempty : b.memsize = 0) (h : Holds mem p ys) (hlt : ys.length < 4 * n) :
    ∃ b', b.keep mem (p + ys.length) p = some b' ∧ b'.Sound n ∧ b'.held = (b.v, ys) := by
  rw [keep]
  by_cases hne : 0 < ys.length
  · obtain ⟨bytes, hcopy, hlen, htake⟩ := hb.memcpy h (by omega)
    rw [hempty] at hcopy htake
    rw [Nat.zero_add, held, hempty, List.take_zero, List.nil_append] at htake
    refine ⟨{ b with mem := bytes, memsize := ys.length }, ?_, ⟨hlen, hlt⟩, ?_⟩
    · rw [if_pos (by omega), Nat.add_sub_cancel_left, hcopy]
      rfl
    · rw [held, htake]
  · obtain rfl : ys = [] := List.eq_nil_of_length_eq_zero (by omega)
    refine ⟨b, if_neg (by rw [List.length_nil]; omega), hb, ?_⟩
    rw [held, hempty, List.take_zero]

/-- To take a piece in is to feed it, whatever was fed before. -/
theorem update_eq [NeZero n]
    (hread : ∀ mem p bs, bs.length = n → Holds mem p bs → read mem p = some (leWord w bs))
    (hmore : ∀ p bEnd, more p bEnd = decide (p + 4 * n ≤ bEnd)) (hb : b.Sound n)
    (h : Holds mem p ys) :
    ∃ b', b.update n round read more mem p ys.length = some b' ∧ b'.Sound n ∧
      b'.held = taken n round b.held ys := by
  have hlt := hb.lt
  rw [update]
  by_cases hshort : b.memsize + ys.length < 4 * n
  · rw [if_pos hshort]
    exact append_eq round hb h hshort
  · rw [if_neg hshort]
    obtain ⟨q₁, b₁, zs, hflush, hb₁, hempty₁, heq₁, hzs, hheld⟩ :=
      flush_eq round hread hb h (by omega)
    obtain ⟨q₂, b₂, hmix, hb₂, hempty₂, hv, heq₂, hrest⟩ :=
      mix_eq round hread hmore hb₁ hempty₁ hzs
    have hrestlt : (taken n round b₁.held zs).2.length < 4 * n :=
      feed_length _ _ (by rw [hb₁.held_length]; exact hb₁.lt) zs
    obtain ⟨b₃, hkeep, hb₃, hheld₃⟩ := keep_eq hb₂ hempty₂ hrest hrestlt
    rw [heq₁] at hmix heq₂
    rw [heq₂] at hkeep
    refine ⟨b₃, ?_, hb₃, ?_⟩
    · rw [hflush]
      show (mix n round read more b₁ mem (p + ys.length) q₁).bind _ = _
      rw [hmix]
      exact hkeep
    · rw [hheld₃, hv, hheld]

end Pieces
end Buffer
end SampApi.XXHash
