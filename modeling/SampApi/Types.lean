import Mathlib.Tactic
import Mathlib.Algebra.Order.Ring.Int
import SampApi.Lib.Text

/-!
# Messages and codecs

Model of `src/api/Types.hpp` and `src/api/SampTypes.hpp`: the structures that requests are decoded
into and responses are encoded from, and the codec of each of them. A codec is the list of fields
that the source registers, in its order: the JSON name, whether the field is required, and the member
it reads and writes. What a codec does with JSON text is the business of the JSON library, which
takes it as an argument (`Env.decode` and `Env.encode`).

A `std::string` is a list of characters, a byte being the character of the same code. A `float` is
never computed with and is carried by its bits.
-/

namespace SampApi
open Lib

/-- A `std::string`. -/
abbrev Str := List Char

/-- What a C function reads of a string it gets as `c_str()`: the part before the first NUL. -/
def cStr (s : Str) : Str := s.takeWhile (· ≠ '\x00')

/-- The decimal digits of a number, as `fmt::format` writes them. -/
def decimal (n : Nat) : Str := (Nat.repr n).toList

/-- A `float`, by its bits. -/
structure Single where
  bits : UInt32
  deriving DecidableEq, Repr

/-- The exceptions of the program and of the libraries it calls. `undefined` stands for an access
    outside of a container, where the source has undefined behaviour. -/
inductive Exn where
  | decode_exception (what : Str)
  | regex_error
  | invalid_argument (what : Str)
  | out_of_range (what : Str)
  | system_error
  | filesystem_error
  | spdlog_ex
  | undefined
  deriving DecidableEq, Repr

/-- `std::stoi`, into 32 bits. -/
def stoi (s : Str) : Except Exn Int :=
  match numeral s with
  | none => .error (.invalid_argument "stoi".toList)
  | some (neg, n) =>
    let v : Int := if neg then -n else n
    if -2 ^ 31 ≤ v ∧ v < 2 ^ 31 then .ok v else .error (.out_of_range "stoi".toList)

/-- `std::stoul`, for the 32-bit `unsigned long` of the platforms the plugin is built for: a minus
    negates modulo `2 ^ 32`. -/
def stoul (s : Str) : Except Exn Nat :=
  match numeral s with
  | none => .error (.invalid_argument "stoul".toList)
  | some (neg, n) =>
    if n < 2 ^ 32 then .ok (if neg then (2 ^ 32 - n) % 2 ^ 32 else n)
    else .error (.out_of_range "stoul".toList)

/-! ## Structures -/

structure BodyRequest where
  password : Str
  hash : UInt32
  deriving DecidableEq, Repr

/-- The common part of all responses. The source leaves `time` uninitialised until `Finalize`. -/
structure Message where
  type : Str := []
  code : UInt32 := 200
  message : Str := []
  time : UInt32 := 0
  deriving DecidableEq, Repr

structure PlayerData where
  login : Str
  name : Str
  x : Single
  y : Single
  z : Single
  health : Single
  armor : Single
  skin : UInt16
  score : UInt32
  ip : Str
  ping : UInt16
  vehicleID : UInt32
  isNpc : Bool
  deriving DecidableEq, Repr

structure PlayerMessage extends Message where
  players : List PlayerData := []
  count : UInt32 := 0
  deriving DecidableEq, Repr

structure SayRequest where
  color : Int32
  name : Str
  message : Str
  deriving DecidableEq, Repr

structure SimpleRequest where
  value : Str
  deriving DecidableEq, Repr

structure SimpleIntRequest where
  value : UInt32
  deriving DecidableEq, Repr

structure GravityRequest where
  gravity : Single
  deriving DecidableEq, Repr

structure IpRequest where
  address : Str
  time : UInt32
  deriving DecidableEq, Repr

structure SettingsMessage extends Message where
  tickcount : UInt32 := 0
  tickrate : UInt32 := 0
  gravity : Single := ⟨0⟩
  apoolsize : UInt32 := 0
  vpoolsize : UInt32 := 0
  maxplayers : UInt32 := 0
  deriving DecidableEq, Repr

/-! ## Codecs -/

/-- A pointer to a member of `T`, by what it reads and writes. -/
inductive Member (T : Type) where
  | string (get : T → Str) (set : Str → T → T)
  | boolean (get : T → Bool) (set : Bool → T → T)
  | uint16 (get : T → UInt16) (set : UInt16 → T → T)
  | uint32 (get : T → UInt32) (set : UInt32 → T → T)
  | int32 (get : T → Int32) (set : Int32 → T → T)
  | float (get : T → Single) (set : Single → T → T)
  | players (get : T → List PlayerData) (set : List PlayerData → T → T)

/-- A field of an object codec. -/
structure Field (T : Type) where
  name : Str
  required : Bool
  member : Member T

/-- An object codec: its fields in the order of registration. -/
abbrev Codec (T : Type) := List (Field T)

/-- The codec of a type (source `default_codec_t`), and a new object of it, which a decoder fills. -/
class DefaultCodec (T : Type) where
  codec : Codec T
  new : T

/-- A field that must be there (source `object_t::required`). -/
def required {T : Type} (name : String) (member : Member T) : Field T := ⟨name.toList, true, member⟩

/-- A field that may be absent (source `object_t::optional`). -/
def optional {T : Type} (name : String) (member : Member T) : Field T :=
  ⟨name.toList, false, member⟩

instance : DefaultCodec BodyRequest where
  codec := [
    required "password" (.string BodyRequest.password fun a v => { v with password := a }),
    required "hash" (.uint32 BodyRequest.hash fun a v => { v with hash := a })]
  new := ⟨[], 0⟩

instance : DefaultCodec Message where
  codec := [
    required "type" (.string Message.type fun a v => { v with type := a }),
    required "code" (.uint32 Message.code fun a v => { v with code := a }),
    optional "message" (.string Message.message fun a v => { v with message := a }),
    optional "response_time" (.uint32 Message.time fun a v => { v with time := a })]
  new := {}

instance : DefaultCodec SettingsMessage where
  codec := [
    required "type" (.string (·.type) fun a v => { v with type := a }),
    required "code" (.uint32 (·.code) fun a v => { v with code := a }),
    optional "message" (.string (·.message) fun a v => { v with message := a }),
    optional "time" (.uint32 (·.time) fun a v => { v with time := a }),
    required "tickcount" (.uint32 (·.tickcount) fun a v => { v with tickcount := a }),
    required "tickrate" (.uint32 (·.tickrate) fun a v => { v with tickrate := a }),
    required "gravity" (.float (·.gravity) fun a v => { v with gravity := a }),
    required "apoolsize" (.uint32 (·.apoolsize) fun a v => { v with apoolsize := a }),
    required "vpoolsize" (.uint32 (·.vpoolsize) fun a v => { v with vpoolsize := a }),
    required "maxplayers" (.uint32 (·.maxplayers) fun a v => { v with maxplayers := a })]
  new := {}

instance : DefaultCodec PlayerData where
  codec := [
    required "name" (.string (·.name) fun a v => { v with name := a }),
    required "x" (.float (·.x) fun a v => { v with x := a }),
    required "y" (.float (·.y) fun a v => { v with y := a }),
    required "z" (.float (·.z) fun a v => { v with z := a }),
    required "health" (.float (·.health) fun a v => { v with health := a }),
    required "armor" (.float (·.armor) fun a v => { v with armor := a }),
    required "skin" (.uint16 (·.skin) fun a v => { v with skin := a }),
    required "score" (.uint32 (·.score) fun a v => { v with score := a }),
    required "ip" (.string (·.ip) fun a v => { v with ip := a }),
    required "ping" (.uint16 (·.ping) fun a v => { v with ping := a }),
    required "vehicleID" (.uint32 (·.vehicleID) fun a v => { v with vehicleID := a }),
    required "isNpc" (.boolean (·.isNpc) fun a v => { v with isNpc := a })]
  new := ⟨[], [], ⟨0⟩, ⟨0⟩, ⟨0⟩, ⟨0⟩, ⟨0⟩, 0, 0, [], 0, 0, false⟩

instance : DefaultCodec PlayerMessage where
  codec := [
    required "type" (.string (·.type) fun a v => { v with type := a }),
    required "code" (.uint32 (·.code) fun a v => { v with code := a }),
    required "count" (.uint32 (·.count) fun a v => { v with count := a }),
    optional "message" (.string (·.message) fun a v => { v with message := a }),
    optional "time" (.uint32 (·.time) fun a v => { v with time := a }),
    optional "players" (.players (·.players) fun a v => { v with players := a })]
  new := {}

instance : DefaultCodec SayRequest where
  codec := [
    required "color" (.int32 SayRequest.color fun a v => { v with color := a }),
    required "name" (.string SayRequest.name fun a v => { v with name := a }),
    required "message" (.string SayRequest.message fun a v => { v with message := a })]
  new := ⟨0, [], []⟩

instance : DefaultCodec SimpleRequest where
  codec := [required "value" (.string SimpleRequest.value fun a v => { v with value := a })]
  new := ⟨[]⟩

instance : DefaultCodec SimpleIntRequest where
  codec := [required "value" (.uint32 SimpleIntRequest.value fun a v => { v with value := a })]
  new := ⟨0⟩

instance : DefaultCodec GravityRequest where
  codec := [required "gravity" (.float GravityRequest.gravity fun a v => { v with gravity := a })]
  new := ⟨⟨0⟩⟩

instance : DefaultCodec IpRequest where
  codec := [
    required "address" (.string IpRequest.address fun a v => { v with address := a }),
    optional "time" (.uint32 IpRequest.time fun a v => { v with time := a })]
  new := ⟨[], 0⟩

/-! ## Objects -/

/-- The values of a JSON object that the codecs know; a real number stands for the `float` that it
    is read as, and an array has objects. -/
inductive Value where
  | string (s : Str)
  | boolean (b : Bool)
  | number (n : Int)
  | real (x : Single)
  | objects (rows : List (List (Str × Value)))

/-- Writes a value to a member, if it is one that the member can hold. -/
def Member.write {T : Type} (v : Value) (t : T) : Member T → Except Str T
  | string _ set =>
    match v with
    | .string s => .ok (set s t)
    | _ => .error "Unexpected input".toList
  | boolean _ set =>
    match v with
    | .boolean b => .ok (set b t)
    | _ => .error "Unexpected input".toList
  | uint16 _ set =>
    match v with
    | .number n =>
      if 0 ≤ n ∧ n < 2 ^ 16 then .ok (set (UInt16.ofNat n.toNat) t)
      else .error "Integer overflow".toList
    | _ => .error "Unexpected input".toList
  | uint32 _ set =>
    match v with
    | .number n =>
      if 0 ≤ n ∧ n < 2 ^ 32 then .ok (set (UInt32.ofNat n.toNat) t)
      else .error "Integer overflow".toList
    | _ => .error "Unexpected input".toList
  | int32 _ set =>
    match v with
    | .number n =>
      if -2 ^ 31 ≤ n ∧ n < 2 ^ 31 then .ok (set (Int32.ofInt n) t)
      else .error "Integer overflow".toList
    | _ => .error "Unexpected input".toList
  | float _ set =>
    match v with
    | .real x => .ok (set x t)
    | _ => .error "Unexpected input".toList
  -- the plugin writes lists of players, and reads none
  | players _ _ => .error "Unexpected input".toList

/-- Fills an object from the members of a JSON object: by name, without regard to members that the
    codec does not know, and failing if a required one is missing. -/
def Codec.fill {T : Type} (codec : Codec T) (members : List (Str × Value)) (t : T) : Except Str T :=
  match codec with
  | [] => .ok t
  | field :: fields => do
    let t ←
      match members.lookup field.name with
      | some v => field.member.write v t
      | none => if field.required then .error "Missing required field(s)".toList else .ok t
    Codec.fill fields members t

/-- The value of a member; `row` makes the object of a player. -/
def Member.read {T : Type} (row : PlayerData → List (Str × Value)) (t : T) : Member T → Value
  | string get _ => .string (get t)
  | boolean get _ => .boolean (get t)
  | uint16 get _ => .number (get t).toNat
  | uint32 get _ => .number (get t).toNat
  | int32 get _ => .number (get t).toInt
  | float get _ => .real (get t)
  | players get _ => .objects ((get t).map row)

/-- The members of a player's object, which has no lists in it. -/
def PlayerData.emit (p : PlayerData) : List (Str × Value) :=
  (DefaultCodec.codec : Codec PlayerData).map fun field =>
    (field.name, field.member.read (fun _ => []) p)

/-- The members of the JSON object that an object is encoded as. -/
def emit {T : Type} [DefaultCodec T] (t : T) : List (Str × Value) :=
  (DefaultCodec.codec : Codec T).map fun field => (field.name, field.member.read PlayerData.emit t)

/-! ## Reading objects -/

/-- A number that was read from a member can be written to one. -/
lemma write_uint32 {T : Type} (get : T → UInt32) (set : UInt32 → T → T) (n : UInt32) (t : T) :
    Member.write (.number n.toNat) t (.uint32 get set) = .ok (set n t) := by
  have h : (0 : Int) ≤ n.toNat ∧ (n.toNat : Int) < 2 ^ 32 := by
    have hlt := n.toNat_lt
    omega
  rw [Member.write]
  simp only [if_pos h, Int.toNat_natCast, UInt32.ofNat_toNat]

lemma write_int32 {T : Type} (get : T → Int32) (set : Int32 → T → T) (n : Int32) (t : T) :
    Member.write (.number n.toInt) t (.int32 get set) = .ok (set n t) := by
  have h : -2 ^ 31 ≤ n.toInt ∧ n.toInt < 2 ^ 31 := ⟨n.le_toInt, n.toInt_lt⟩
  rw [Member.write]
  simp only [if_pos h, Int32.ofInt_toInt]

namespace Codec
variable {T : Type} {name : Str} {required : Bool} {fields : Codec T}
  {members : List (Str × Value)} {t : T}

lemma fill_string {get : T → Str} {set : Str → T → T} {s : Str}
    (h : members.lookup name = some (.string s)) :
    fill (⟨name, required, .string get set⟩ :: fields) members t = fill fields members (set s t) := by
  rw [fill, h]
  rfl

lemma fill_uint32 {get : T → UInt32} {set : UInt32 → T → T} {n : UInt32}
    (h : members.lookup name = some (.number n.toNat)) :
    fill (⟨name, required, .uint32 get set⟩ :: fields) members t = fill fields members (set n t) := by
  rw [fill, h]
  show (Member.write _ t (.uint32 get set) >>= fun t => fill fields members t) = _
  rw [write_uint32]
  rfl

lemma fill_int32 {get : T → Int32} {set : Int32 → T → T} {n : Int32}
    (h : members.lookup name = some (.number n.toInt)) :
    fill (⟨name, required, .int32 get set⟩ :: fields) members t = fill fields members (set n t) := by
  rw [fill, h]
  show (Member.write _ t (.int32 get set) >>= fun t => fill fields members t) = _
  rw [write_int32]
  rfl

/-- A member that is not there leaves a field that may be absent as it is. -/
lemma fill_absent {member : Member T} (h : members.lookup name = none) :
    fill (⟨name, false, member⟩ :: fields) members t = fill fields members t := by
  rw [fill, h]
  rfl

/-- A required member that is not there is an error. -/
lemma fill_missing {member : Member T} (h : members.lookup name = none) :
    ∃ what, fill (⟨name, true, member⟩ :: fields) members t = .error what := by
  rw [fill, h]
  exact ⟨_, rfl⟩

end Codec
end SampApi
