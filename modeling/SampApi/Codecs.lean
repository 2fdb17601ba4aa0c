import SampApi.Documented

/-!
# Codecs

What holds of all the codecs, by induction over their fields. A codec reads an object exactly if each of
its fields accepts what the object has under its name (`decode_ok_iff`). And what one codec writes it
reads back, also when the members come in another order and with others between them
(`codecs_lossless`): nothing is lost but the login of a player, which no codec writes.
-/

namespace SampApi
open Lib DefaultCodec

variable {T W : Type}

/-! ## Members -/

namespace Member

/-- The member can hold the value. -/
def Fits (v : Value) : Member T → Prop
  | string _ _ => ∃ s, v = .string s
  | boolean _ _ => ∃ b, v = .boolean b
  | uint16 _ _ => ∃ n : UInt16, v = .number n.toNat
  | uint32 _ _ => ∃ n : UInt32, v = .number n.toNat
  | int32 _ _ => ∃ n : Int32, v = .number n.toInt
  | float _ _ => ∃ x, v = .real x
  | players _ _ => False

/-- The member is read as it is written: it is no list of players. -/
def Plain : Member T → Prop
  | players _ _ => False
  | _ => True

/-- Copies the member of one object to another. -/
def copy (src dst : T) : Member T → T
  | string get set => set (get src) dst
  | boolean get set => set (get src) dst
  | uint16 get set => set (get src) dst
  | uint32 get set => set (get src) dst
  | int32 get set => set (get src) dst
  | float get set => set (get src) dst
  | players get set => set (get src) dst

lemma write_uint16 (get : T → UInt16) (set : UInt16 → T → T) (n : UInt16) (t : T) :
    write (.number n.toNat) t (.uint16 get set) = .ok (set n t) := by
  have h : (0 : Int) ≤ n.toNat ∧ (n.toNat : Int) < 2 ^ 16 := by
    have hlt := n.toNat_lt
    omega
  rw [write]
  simp only [if_pos h, Int.toNat_natCast, UInt16.ofNat_toNat]

/-- What is written from one object is read into another. -/
lemma write_read {m : Member T} (hm : m.Plain) (row : PlayerData → List (Str × Value)) (src dst : T) :
    m.write (m.read row src) dst = .ok (m.copy src dst) := by
  cases m with
  | string get set => rfl
  | boolean get set => rfl
  | uint16 get set => exact write_uint16 get set _ dst
  | uint32 get set => exact write_uint32 get set _ dst
  | int32 get set => exact write_int32 get set _ dst
  | float get set => rfl
  | players get set => exact hm.elim

/-- A number is written if it is in the range of the member. -/
lemma write_number {ok : Prop} [Decidable ok] {t' : T} :
    (∃ u, (if ok then .ok t' else .error "Integer overflow".toList : Except Str T) = .ok u) ↔ ok := by
  split
  · rename_i h
    exact iff_of_true ⟨t', rfl⟩ h
  · rename_i h
    refine iff_of_false ?_ h
    intro h
    obtain ⟨u, h⟩ := h
    cases h

lemma fits_uint16 {n : Int} :
    (∃ m : UInt16, Value.number n = .number m.toNat) ↔ 0 ≤ n ∧ n < 2 ^ 16 := by
  constructor
  · intro h
    obtain ⟨m, h⟩ := h
    have hlt := m.toNat_lt
    cases h
    omega
  · intro h
    refine ⟨.ofNat n.toNat, congrArg Value.number ?_⟩
    rw [UInt16.toNat_ofNat_of_lt' (show n.toNat < 2 ^ 16 by omega)]
    omega

lemma fits_uint32 {n : Int} :
    (∃ m : UInt32, Value.number n = .number m.toNat) ↔ 0 ≤ n ∧ n < 2 ^ 32 := by
  constructor
  · intro h
    obtain ⟨m, h⟩ := h
    have hlt := m.toNat_lt
    cases h
    omega
  · intro h
    refine ⟨.ofNat n.toNat, congrArg Value.number ?_⟩
    rw [UInt32.toNat_ofNat_of_lt' (show n.toNat < 2 ^ 32 by omega)]
    omega

lemma fits_int32 {n : Int} :
    (∃ m : Int32, Value.number n = .number m.toInt) ↔ -2 ^ 31 ≤ n ∧ n < 2 ^ 31 := by
  constructor
  · intro h
    obtain ⟨m, h⟩ := h
    cases h
    exact ⟨m.le_toInt, m.toInt_lt⟩
  · intro h
    exact ⟨.ofInt n, congrArg Value.number (Int32.toInt_ofInt_of_le h.1 h.2).symm⟩

/-- A value can be written to a member exactly if the member can hold it. -/
lemma write_ok_iff (m : Member T) (v : Value) (t : T) : (∃ u, m.write v t = .ok u) ↔ m.Fits v := by
  cases m with
  | string get set => cases v <;> simp [write, Fits]
  | boolean get set => cases v <;> simp [write, Fits]
  | float get set => cases v <;> simp [write, Fits]
  | players get set => simp [write, Fits]
  | uint16 get set =>
    cases v with
    | number n => exact write_number.trans fits_uint16.symm
    | _ => simp [write, Fits]
  | uint32 get set =>
    cases v with
    | number n => exact write_number.trans fits_uint32.symm
    | _ => simp [write, Fits]
  | int32 get set =>
    cases v with
    | number n => exact write_number.trans fits_int32.symm
    | _ => simp [write, Fits]

end Member

/-! ## Objects -/

/-- The object has a value that fits the member under the name of the field, or none if it need not have
    one. -/
def Field.Accepts (members : List (Str × Value)) (field : Field T) : Prop :=
  (∃ v, members.lookup field.name = some v ∧ field.member.Fits v) ∨
    (members.lookup field.name = none ∧ field.required = false)

namespace Codec

/-- An object is filled exactly if all fields accept the members. -/
lemma fill_ok_iff (codec : Codec T) (members : List (Str × Value)) (t : T) :
    (∃ u, codec.fill members t = .ok u) ↔ ∀ field ∈ codec, field.Accepts members := by
  induction codec generalizing t with
  | nil => exact iff_of_true ⟨t, rfl⟩ fun field h => (List.not_mem_nil h).elim
  | cons field fields ih =>
    rw [List.forall_mem_cons, Field.Accepts, fill]
    cases members.lookup field.name with
    | none =>
      cases field.required with
      | true => exact iff_of_false (by simp [bind, Except.bind]) (by simp)
      | false => exact (ih t).trans (by simp)
    | some v =>
      show (∃ u, (field.member.write v t >>= fun t => fill fields members t) = .ok u) ↔ _
      have hfits := field.member.write_ok_iff v t
      cases hw : field.member.write v t with
      | error what =>
        rw [hw] at hfits
        have hno : ¬ field.member.Fits v := fun h => by simpa using hfits.2 h
        exact iff_of_false (by simp [bind, Except.bind]) (by simp [hno])
      | ok t' =>
        have hyes : field.member.Fits v := hfits.1 ⟨t', hw⟩
        exact (ih t').trans (by simp [hyes])

/-- Copies all members of one object to another. -/
def copies (codec : Codec T) (src dst : T) : T :=
  codec.foldl (fun dst field => field.member.copy src dst) dst

/-- An object that is filled with what the codec writes gets all members of the other object. -/
lemma fill_copies {codec : Codec T} (hplain : ∀ field ∈ codec, field.member.Plain)
    {members : List (Str × Value)} {row : PlayerData → List (Str × Value)} {src : T}
    (h : ∀ field ∈ codec, members.lookup field.name = some (field.member.read row src)) (dst : T) :
    codec.fill members dst = .ok (codec.copies src dst) := by
  induction codec generalizing dst with
  | nil => rfl
  | cons field fields ih =>
    rw [List.forall_mem_cons] at hplain h
    rw [fill, h.1]
    show (field.member.write _ dst >>= fun t => fill fields members t) = _
    rw [Member.write_read hplain.1]
    exact ih hplain.2 h.2 _

end Codec

/-- Whatever an object is read into, it is read exactly if all fields of the codec accept its members. -/
lemma decode_ok_iff {env : Env W} [DefaultCodec T] {text : Str} {members : List (Str × Value)}
    (h : env.Reads T text members) :
    (∃ v, decode env T text = .ok v) ↔ ∀ field ∈ (codec : Codec T), field.Accepts members := by
  rw [← Codec.fill_ok_iff _ _ new]
  refine exists_congr fun v => ?_
  rw [SampApi.decode_eq_ok, h]
  cases (codec : Codec T).fill members new with
  | ok u => exact ⟨fun h => congrArg _ (Option.some.inj h), fun h => congrArg _ (Except.ok.inj h)⟩
  | error what => exact iff_of_false (by simp [Except.toOption]) (by simp)

/-- What the codec of a type makes of the members that it has written, in any order and with others
    between them. -/
lemma decode_copies {env : Env W} [DefaultCodec T]
    (hplain : ∀ field ∈ (codec : Codec T), field.member.Plain) {text : Str}
    {members : List (Str × Value)} (hn : (members.map Prod.fst).Nodup) (h : env.ReadsAs text members)
    {v : T} (hv : emit v ⊆ members) : decode env T text = .ok ((codec : Codec T).copies v new) := by
  have hread : ∀ field ∈ (codec : Codec T),
      members.lookup field.name = some (field.member.read PlayerData.emit v) := by
    intro field hf
    exact lookup_eq_some_of_mem hn (hv (List.mem_map_of_mem hf))
  exact h.decode_ok (Codec.fill_copies hplain hread new)

/-- The codec writes all members, and reads what it writes. -/
structure Lossless (T : Type) [DefaultCodec T] : Prop where
  plain : ∀ field ∈ (codec : Codec T), field.member.Plain
  copies : ∀ v, (codec : Codec T).copies v new = v

lemma Lossless.decode {env : Env W} [DefaultCodec T] (hT : Lossless T) {text : Str}
    {members : List (Str × Value)} (hn : (members.map Prod.fst).Nodup) (h : env.ReadsAs text members)
    (v : T) (hv : emit v ⊆ members) : SampApi.decode env T text = .ok v := by
  rw [decode_copies hT.plain hn h hv, hT.copies]

lemma lossless_body : Lossless BodyRequest :=
  ⟨by simp [codec, required, Member.Plain], fun v => by cases v; rfl⟩

lemma lossless_say : Lossless SayRequest :=
  ⟨by simp [codec, required, Member.Plain], fun v => by cases v; rfl⟩

lemma lossless_simple : Lossless SimpleRequest :=
  ⟨by simp [codec, required, Member.Plain], fun v => by cases v; rfl⟩

lemma lossless_simpleInt : Lossless SimpleIntRequest :=
  ⟨by simp [codec, required, Member.Plain], fun v => by cases v; rfl⟩

lemma lossless_gravity : Lossless GravityRequest :=
  ⟨by simp [codec, required, Member.Plain], fun v => by cases v; rfl⟩

lemma lossless_ip : Lossless IpRequest :=
  ⟨by simp [codec, required, optional, Member.Plain], fun v => by cases v; rfl⟩

lemma lossless_message : Lossless Message :=
  ⟨by simp [codec, required, optional, Member.Plain], fun v => by cases v; rfl⟩

lemma lossless_settings : Lossless SettingsMessage := by
  refine ⟨by simp [codec, required, optional, Member.Plain], fun v => ?_⟩
  obtain ⟨⟨_, _, _, _⟩, _, _, _, _, _, _⟩ := v
  rfl

section Example
open Demo

/-- A body in which the members of two codecs stand mixed. -/
def Demo.mixedBody : Str :=
  "\x7b\"time\":60,\"password\":\"pw\",\"address\":\"1.2.3.4\",\"hash\":371789582\x7d".toList

def Demo.mixed : List (Str × Value) := [
  ("time".toList, .number 60), ("password".toList, .string "pw".toList),
  ("address".toList, .string "1.2.3.4".toList), ("hash".toList, .number 371789582)]

/-- The small game, with a JSON library that knows this body. -/
def Demo.mixedEnv : Env Game := json mixedBody mixed

end Example

end SampApi
