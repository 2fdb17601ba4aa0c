import SampApi.Api

/-!
# How loading ends

`Loads` lists the ways in which the exported function `Load` can end: it refuses to start before
there is an endpoint, an exception leaves it, or it starts the endpoint and returns what
`sampgdk::Load` had returned. Loading is all or nothing exactly if it refuses, or if nothing throws
and `sampgdk::Load` had succeeded (`load_allOrNothing_iff`).
-/

namespace SampApi
open Lib

/-! ## The settings in a file -/

namespace Config

/-- The first value of a key in a file. -/
def first (key text : Str) : Option Str := (firstValues key text).bind List.head?

/-- The first value of a key in a file, or a default. -/
def firstOr (key dflt text : Str) : Str := (first key text).getD dflt

lemma get_load_first (key text : Str) :
    (load {} (some text)).2.get key 0 = first key text := by
  rw [get_load, first]
  cases firstValues key text with
  | none => rfl
  | some vs => exact List.head?_eq_getElem?.symm

lemma getDef_load (key dflt text : Str) :
    (load {} (some text)).2.getDef key dflt 0 = firstOr key dflt text := by
  rw [getDef, get_load_first]
  rfl

end Config

/-- The port in a configuration file. -/
def portIn (text : Str) : Str := Config.firstOr "api_port".toList "7778".toList text

/-- The seed in a configuration file. -/
def seedIn (text : Str) : Str := Config.firstOr "api_seed".toList "17733194".toList text

/-- The password in a configuration file. -/
def passwordIn (text : Str) : Option Str := Config.first "api_password".toList text

/-! ## The endpoint -/

/-- The endpoint that is started with some settings. -/
def startedEndpoint (port : UInt16) (password : Str) (seed : Nat) : Endpoint where
  port
  accept := .pending
  handler := ((Handler.registerFunctions {}).setPassword password).setSeed (UInt32.ofNat seed)

/-- The settings are numbers, and the port can be bound. -/
def Host.Starts (host : Host) (text : Str) : Prop :=
  (∃ n, stoi (portIn text) = .ok n ∧ host.bind (toUInt32 n).toUInt16 = .ok ()) ∧
  ∃ v, stoul (seedIn text) = .ok v

lemma Endpoint.new_ok {host : Host} {port : UInt32} (h : host.bind port.toUInt16 = .ok ()) :
    Endpoint.new host port =
      .ok { port := port.toUInt16, handler := Handler.registerFunctions {} } := by
  rw [Endpoint.new, h]
  rfl

lemma Endpoint.new_error {host : Host} {port : UInt32} {x : Exn}
    (h : host.bind port.toUInt16 = .error x) : Endpoint.new host port = .error x := by
  rw [Endpoint.new, h]
  rfl

/-- With a port that is a number and can be bound, and a seed that is a number, the endpoint is
    started. -/
lemma startEndpoint_starts {host : Host} {text : Str} {n : Int} {v : Nat} (password : Str)
    (hn : stoi (portIn text) = .ok n) (hb : host.bind (toUInt32 n).toUInt16 = .ok ())
    (hv : stoul (seedIn text) = .ok v) (g : Globals) :
    ∃ g', startEndpoint host (portIn text) (seedIn text) password g = (.ok (), g') ∧
      g'.e = some (startedEndpoint (toUInt32 n).toUInt16 password v) ∧
      g'.sampConfig = g.sampConfig := by
  rw [startEndpoint, hn, Prog.bind_ok (Prog.lift_run (.ok n) g), Endpoint.new_ok hb,
    Prog.bind_ok (Prog.lift_run (.ok _) g), Prog.update_bind_run, Prog.update_bind_run, hv]
  exact ⟨_, rfl, rfl, rfl⟩

/-- The endpoint is started, or an exception is thrown. -/
lemma startEndpoint_ends (host : Host) (text password : Str) (g : Globals) :
    (∃ port v g', startEndpoint host (portIn text) (seedIn text) password g = (.ok (), g') ∧
      g'.e = some (startedEndpoint port password v) ∧ g'.sampConfig = g.sampConfig ∧
      host.Starts text ∧ stoul (seedIn text) = .ok v) ∨
    (¬ host.Starts text ∧
      ∃ x g', startEndpoint host (portIn text) (seedIn text) password g = (.error x, g')) := by
  cases hn : stoi (portIn text) with
  | error x =>
    rw [startEndpoint, hn]
    refine .inr ⟨?_, x, _, Prog.bind_error (Prog.lift_run ..)⟩
    intro h
    obtain ⟨⟨n, h, -⟩, -⟩ := h
    cases hn.symm.trans h
  | ok n =>
    cases hb : host.bind (toUInt32 n).toUInt16 with
    | error x =>
      rw [startEndpoint, hn, Prog.bind_ok (Prog.lift_run (.ok n) g), Endpoint.new_error hb]
      refine .inr ⟨?_, x, _, Prog.bind_error (Prog.lift_run ..)⟩
      intro h
      obtain ⟨⟨n', h, hb'⟩, -⟩ := h
      cases hn.symm.trans h
      cases hb.symm.trans hb'
    | ok =>
      cases hv : stoul (seedIn text) with
      | error x =>
        -- now there is an endpoint, which an exception does not take away
        rw [startEndpoint, hn, Prog.bind_ok (Prog.lift_run (.ok n) g), Endpoint.new_ok hb,
          Prog.bind_ok (Prog.lift_run (.ok _) g), Prog.update_bind_run, Prog.update_bind_run, hv]
        refine .inr ⟨?_, x, _, Prog.bind_error (Prog.lift_run ..)⟩
        intro h
        obtain ⟨-, v, h⟩ := h
        cases hv.symm.trans h
      | ok v =>
        obtain ⟨g', hrun, he, hconfig⟩ := startEndpoint_starts password hn hb hv g
        exact .inl ⟨(toUInt32 n).toUInt16, v, g', hrun, he, hconfig, ⟨⟨n, hn, hb⟩, v, hv⟩, rfl⟩

/-! ## Load -/

/-- The ways in which `Load` ends. -/
inductive Loads (host : Host) : Except Exn Bool → Globals → Prop where
  | logThrows {x g} :
    host.openLog = .error x →
    Loads host (.error x) g
  | logFails {g} :
    host.openLog = .ok false →
    g.e = none →
    Loads host (.ok false) g
  | noFile {g} :
    host.openLog = .ok true →
    host.content "server.cfg".toList = none →
    g.e = none →
    Loads host (.ok false) g
  | noPassword {text g} :
    host.openLog = .ok true →
    host.content "server.cfg".toList = some text →
    passwordIn text = none →
    g.e = none →
    Loads host (.ok false) g
  | throws {text password x g} :
    host.openLog = .ok true →
    host.content "server.cfg".toList = some text →
    passwordIn text = some password →
    ¬ host.Starts text →
    Loads host (.error x) g
  | starts {text password port v g} :
    host.openLog = .ok true →
    host.content "server.cfg".toList = some text →
    passwordIn text = some password →
    host.Starts text →
    stoul (seedIn text) = .ok v →
    g.e = some (startedEndpoint port password v) →
    g.sampConfig = some (Config.load {} (some text)).2 →
    Loads host (.ok host.sampgdkLoad) g

/-- The globals when `Load` has read a file. -/
def loadedGlobals (text : Str) : Globals where
  playerManager := some {}
  sampConfig := some (Config.load {} (some text)).2
  io_service := true

/-- When the log is open and there is a file with a password, `Load` starts the endpoint. -/
lemma load_run {host : Host} {text password : Str} (ho : host.openLog = .ok true)
    (hc : host.content "server.cfg".toList = some text) (hp : passwordIn text = some password) :
    load host {} =
      (startEndpoint host (portIn text) (seedIn text) password >>= fun _ =>
        (pure host.sampgdkLoad : Prog Globals Exn Bool)) (loadedGlobals text) := by
  have hp' : Config.first "api_password".toList text = some password := hp
  rw [load, Prog.update_bind_run, ho, hc]
  simp only [Prog.bind_run, Prog.lift_run, Config.getDef_load, Config.get_load_first, hp']
  rfl

/-- `Load` ends in one of these ways. -/
theorem load_loads (host : Host) : Loads host (load host {}).1 (load host {}).2 := by
  cases ho : host.openLog with
  | error x =>
    rw [load, Prog.update_bind_run, ho]
    exact .logThrows ho
  | ok opened =>
    cases opened with
    | false =>
      rw [load, Prog.update_bind_run, ho]
      exact .logFails ho rfl
    | true =>
      cases hc : host.content "server.cfg".toList with
      | none =>
        rw [load, Prog.update_bind_run, ho, hc]
        exact .noFile ho hc rfl
      | some text =>
        cases hp : passwordIn text with
        | none =>
          have hp' : Config.first "api_password".toList text = none := hp
          rw [load, Prog.update_bind_run, ho, hc]
          simp only [Prog.bind_run, Prog.lift_run, Config.get_load_first, hp']
          exact .noPassword ho hc hp rfl
        | some password =>
          rw [load_run ho hc hp]
          rcases startEndpoint_ends host text password (loadedGlobals text) with
            ⟨port, v, g', h, he, hconfig, hs, hv⟩ | ⟨hs, x, g', h⟩
          · rw [Prog.bind_ok h]
            exact .starts ho hc hp hs hv he hconfig
          · rw [Prog.bind_error h]
            exact .throws ho hc hp hs

/-- The plugin serves: its endpoint accepts clients, with a password and a seed. -/
def Globals.Serving (g : Globals) : Prop :=
  ∃ e, g.e = some e ∧ e.accept = .pending ∧ e.handler.password.isSome ∧ e.handler.seed.isSome

/-- No exception leaves `Load`; it returns `true` exactly if the plugin serves, and there is no
    endpoint if it returns `false`. -/
def AllOrNothing (host : Host) : Prop :=
  ∃ b g, load host {} = (.ok b, g) ∧ (b = true ↔ g.Serving) ∧ (b = false → g.e = none)

/-- `Load` refuses to start before it creates an endpoint. -/
def Host.Refuses (host : Host) : Prop :=
  host.openLog = .ok false ∨
  host.openLog = .ok true ∧ (host.content "server.cfg".toList = none ∨
    ∃ text, host.content "server.cfg".toList = some text ∧ passwordIn text = none)

/-- Nothing goes wrong when `Load` starts the endpoint, and nothing went wrong before. -/
def Host.Succeeds (host : Host) : Prop :=
  host.openLog = .ok true ∧ host.sampgdkLoad = true ∧
    ∃ text, host.content "server.cfg".toList = some text ∧ host.Starts text

lemma not_refuses {host : Host} {text password : Str} (ho : host.openLog = .ok true)
    (hc : host.content "server.cfg".toList = some text) (hp : passwordIn text = some password) :
    ¬ host.Refuses := by
  intro h
  rcases h with h | ⟨-, h | ⟨text', hc', hp'⟩⟩
  · cases ho.symm.trans h
  · cases hc.symm.trans h
  · cases hc.symm.trans hc'
    cases hp.symm.trans hp'

/-- What `AllOrNothing` says of a run that returned. -/
lemma allOrNothing_returned {host : Host} {b : Bool} {g : Globals} (h : load host {} = (.ok b, g)) :
    AllOrNothing host ↔ (b = true ↔ g.Serving) ∧ (b = false → g.e = none) := by
  refine ⟨fun hall => ?_, fun hall => ⟨b, g, h, hall⟩⟩
  obtain ⟨b', g', h', hall⟩ := hall
  cases h.symm.trans h'
  exact hall

/-- A run that an exception leaves is not all or nothing. -/
lemma allOrNothing_thrown {host : Host} {x : Exn} {g : Globals}
    (h : load host {} = (.error x, g)) : ¬ AllOrNothing host := by
  intro hall
  obtain ⟨b, g', h', -⟩ := hall
  cases h.symm.trans h'

/-- A run that has refused to start is all or nothing. -/
lemma allOrNothing_refused {host : Host} {g : Globals} (h : load host {} = (.ok false, g))
    (he : g.e = none) : AllOrNothing host := by
  rw [allOrNothing_returned h]
  refine ⟨⟨nofun, fun hserving => ?_⟩, fun _ => he⟩
  obtain ⟨e, h, -⟩ := hserving
  cases he.symm.trans h

/-- Loading is all or nothing exactly if it refuses to start before there is an endpoint, or if the
    port and the seed are numbers, the port can be bound, and `sampgdk::Load` has succeeded. -/
theorem load_allOrNothing_iff (host : Host) :
    AllOrNothing host ↔ host.Refuses ∨ host.Succeeds := by
  have hl := load_loads host
  generalize hr : load host {} = r at hl
  obtain ⟨outcome, g⟩ := r
  cases hl with
  | logThrows ho =>
    apply iff_of_false (allOrNothing_thrown hr)
    intro h
    rcases h with (h | ⟨h, -⟩) | ⟨h, -⟩
    · cases ho.symm.trans h
    · cases ho.symm.trans h
    · cases ho.symm.trans h
  | logFails ho he => exact iff_of_true (allOrNothing_refused hr he) (.inl (.inl ho))
  | noFile ho hc he => exact iff_of_true (allOrNothing_refused hr he) (.inl (.inr ⟨ho, .inl hc⟩))
  | @noPassword text _ ho hc hp he =>
    exact iff_of_true (allOrNothing_refused hr he) (.inl (.inr ⟨ho, .inr ⟨text, hc, hp⟩⟩))
  | @throws text password _ _ ho hc hp hs =>
    apply iff_of_false (allOrNothing_thrown hr)
    intro h
    rcases h with h | ⟨-, -, text', hc', hs'⟩
    · exact not_refuses ho hc hp h
    · cases hc.symm.trans hc'
      exact hs hs'
  | @starts text password port v _ ho hc hp hs hv he hconfig =>
    have hserving : g.Serving := ⟨_, he, rfl, rfl, rfl⟩
    rw [allOrNothing_returned hr]
    constructor
    · intro h
      obtain ⟨hb, -⟩ := h
      exact .inr ⟨ho, hb.2 hserving, text, hc, hs⟩
    · intro h
      rcases h with h | ⟨-, hb, -⟩
      · exact absurd h (not_refuses ho hc hp)
      · rw [hb]
        exact ⟨iff_of_true rfl hserving, nofun⟩

/-- A host on which the log can be opened and every port can be bound. -/
def Demo.host (sampgdkLoad : Bool) (cfg : Str) : Host where
  sampgdkLoad
  is_regular_file _ := .ok true
  is_directory _ := .ok true
  create_directories _ := .ok true
  daily_file_sink _ := .ok ()
  content _ := some cfg
  bind _ := .ok ()

/-- With a port that is no number, an exception leaves `Load`. When `sampgdk::Load` has failed, `Load`
    returns `false` although the endpoint listens. -/
theorem load_notAllOrNothing :
    (load (Demo.host true "api_password pw\napi_port http".toList) {}).1 =
        .error (.invalid_argument "stoi".toList) ∧
      ¬ AllOrNothing (Demo.host true "api_password pw\napi_port http".toList) ∧
      (load (Demo.host false "api_password pw".toList) {}).1 = .ok false ∧
      (load (Demo.host false "api_password pw".toList) {}).2.Serving ∧
      ¬ AllOrNothing (Demo.host false "api_password pw".toList) := by
  have hport : (load (Demo.host true "api_password pw\napi_port http".toList) {}).1 =
      .error (.invalid_argument "stoi".toList) := by rfl
  have hfalse : (load (Demo.host false "api_password pw".toList) {}).1 = .ok false := by rfl
  have hserving : (load (Demo.host false "api_password pw".toList) {}).2.Serving :=
    ⟨_, rfl, rfl, rfl, rfl⟩
  refine ⟨hport, ?_, hfalse, hserving, ?_⟩
  · exact allOrNothing_thrown (Prod.ext hport rfl)
  · intro h
    obtain ⟨hiff, -⟩ := (allOrNothing_returned (Prod.ext hfalse rfl)).1 h
    cases hiff.2 hserving

end SampApi
