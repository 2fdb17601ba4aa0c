import SampApi.Startup

/-!
# The numbers in a configuration file

`Load` reads the port and the seed with `stoi` and `stoul`, which take the number that a field begins
with, and cuts the port to 16 bits. `takesNumbers_iff` says when the plugin gets the numbers that
are written: when both fields have digits only, and the port is a positive number of 16 bits.
-/

namespace SampApi
open Lib

/-! ## Fields -/

/-- `stoi` reads digits as their number. -/
lemma stoi_digits {s : Str} (h : IsNumeral s) {n : Int} (hn : stoi s = .ok n) :
    n = digitsValue s := by
  rw [stoi, numeral_eq h] at hn
  by_cases hle : -2 ^ 31 ≤ (digitsValue s : Int) ∧ (digitsValue s : Int) < 2 ^ 31
  · exact (Except.ok.inj ((if_pos hle).symm.trans hn)).symm
  · cases (if_neg hle).symm.trans hn

/-- `stoul` reads digits as their number, which has 32 bits. -/
lemma stoul_digits {s : Str} (h : IsNumeral s) {v : Nat} (hv : stoul s = .ok v) :
    v = digitsValue s ∧ v < 2 ^ 32 := by
  rw [stoul, numeral_eq h] at hv
  by_cases hlt : digitsValue s < 2 ^ 32
  · cases (if_pos hlt).symm.trans hv
    exact ⟨rfl, hlt⟩
  · cases (if_neg hlt).symm.trans hv

/-- As a 16-bit port, a number loses its higher bits. -/
lemma toUInt16_toUInt32 (d : Nat) : (toUInt32 d).toUInt16.toNat = d % 2 ^ 16 := by
  rw [toUInt32, UInt32.toNat_toUInt16, UInt32.toNat_ofNat']
  omega

/-! ## Ports -/

/-- The port that an acceptor is bound to: if it asks for port 0, the system chooses a free one. -/
def boundPort (free port : UInt16) : UInt16 := if port = 0 then free else port

lemma boundPort_eq_iff {free : UInt16} (hfree : free ≠ 0) (d : Nat) :
    (boundPort free (toUInt32 d).toUInt16).toNat = d ↔ 0 < d ∧ d < 2 ^ 16 := by
  have hport := toUInt16_toUInt32 d
  have hlt := (boundPort free (toUInt32 d).toUInt16).toNat_lt
  by_cases hzero : (toUInt32 d).toUInt16 = 0
  · -- then the number is a multiple of `2 ^ 16`, and the system chooses
    rw [hzero] at hport
    have hmod : 0 = d % 2 ^ 16 := hport
    have hpos : 0 < free.toNat := UInt16.lt_iff_toNat_lt.1 (UInt16.pos_iff_ne_zero.2 hfree)
    rw [boundPort, if_pos hzero] at hlt ⊢
    omega
  · have hpos : 0 < (toUInt32 d).toUInt16.toNat :=
      UInt16.lt_iff_toNat_lt.1 (UInt16.pos_iff_ne_zero.2 hzero)
    rw [boundPort, if_neg hzero]
    omega

/-! ## Loading -/

/-- The fields of a file are decimal numbers in full, and these are the port and the seed. -/
structure Written (text : Str) (port : UInt16) (seed : UInt32) : Prop where
  port_numeral : IsNumeral (portIn text)
  port_value : port.toNat = digitsValue (portIn text)
  seed_numeral : IsNumeral (seedIn text)
  seed_value : seed.toNat = digitsValue (seedIn text)

/-- If `Load` succeeds, the acceptor is bound to the port, and the handler has the seed, that are written
    in the configuration file. -/
def TakesNumbers (free : UInt16) (host : Host) : Prop :=
  ∀ g, load host {} = (.ok true, g) →
    ∃ text e seed, host.content "server.cfg".toList = some text ∧ g.e = some e ∧
      e.handler.seed = some seed ∧ Written text (boundPort free e.port) seed

/-- The fields have digits only, and the port is a positive number of 16 bits. -/
structure Numbers (text : Str) : Prop where
  port : IsNumeral (portIn text)
  pos : 0 < digitsValue (portIn text)
  lt : digitsValue (portIn text) < 2 ^ 16
  seed : IsNumeral (seedIn text)

lemma written_iff {free : UInt16} (hfree : free ≠ 0) {text : Str} {n : Int} {v : Nat}
    (hn : stoi (portIn text) = .ok n) (hv : stoul (seedIn text) = .ok v) :
    Written text (boundPort free (toUInt32 n).toUInt16) (UInt32.ofNat v) ↔ Numbers text := by
  constructor
  · intro h
    have hvalue := h.port_value
    rw [stoi_digits h.port_numeral hn] at hvalue
    obtain ⟨hpos, hlt⟩ := (boundPort_eq_iff hfree _).1 hvalue
    exact ⟨h.port_numeral, hpos, hlt, h.seed_numeral⟩
  · intro h
    obtain ⟨rfl, hlt⟩ := stoul_digits h.seed hv
    refine ⟨h.port, ?_, h.seed, UInt32.toNat_ofNat_of_lt hlt⟩
    rw [stoi_digits h.port hn]
    exact (boundPort_eq_iff hfree _).2 ⟨h.pos, h.lt⟩

/-- `Load` returns `true` if it does not refuse to start and nothing goes wrong. -/
lemma load_succeeds {host : Host} (hr : ¬ host.Refuses) (hs : host.Succeeds) :
    ∃ text password n v g, host.content "server.cfg".toList = some text ∧
      stoi (portIn text) = .ok n ∧ stoul (seedIn text) = .ok v ∧ load host {} = (.ok true, g) ∧
      g.e = some (startedEndpoint (toUInt32 n).toUInt16 password v) := by
  obtain ⟨ho, hload, text, hc, ⟨n, hn, hb⟩, v, hv⟩ := hs
  cases hp : passwordIn text with
  | none => exact absurd (.inr ⟨ho, .inr ⟨text, hc, hp⟩⟩) hr
  | some password =>
    obtain ⟨g, hrun, he, -⟩ := startEndpoint_starts password hn hb hv (loadedGlobals text)
    refine ⟨text, password, n, v, g, hc, hn, hv, ?_, he⟩
    rw [load_run ho hc hp, Prog.bind_ok hrun, hload]
    rfl

/-- Otherwise it does not return `true`. -/
lemma load_true {host : Host} {g : Globals} (h : load host {} = (.ok true, g)) :
    ¬ host.Refuses ∧ host.Succeeds := by
  have hl := load_loads host
  rw [h] at hl
  generalize hb : (Except.ok true : Except Exn Bool) = outcome at hl
  cases hl with
  | starts ho hc hp hs _ _ _ =>
    exact ⟨not_refuses ho hc hp, ho, (Except.ok.inj hb).symm, _, hc, hs⟩
  | _ => cases hb

/-- `Load` takes the numbers that are written exactly if it does not succeed, or both fields have digits
    only and the port is a positive number of 16 bits. -/
theorem takesNumbers_iff {free : UInt16} (hfree : free ≠ 0) (host : Host) :
    TakesNumbers free host ↔ (¬ host.Refuses → host.Succeeds →
      ∀ text, host.content "server.cfg".toList = some text → Numbers text) := by
  constructor
  · intro h hr hs text hc
    obtain ⟨text', password, n, v, g, hc', hn, hv, hrun, he⟩ := load_succeeds hr hs
    cases hc.symm.trans hc'
    obtain ⟨text', e, seed, hc', he', hseed, hw⟩ := h g hrun
    cases hc.symm.trans hc'
    cases he.symm.trans he'
    cases hseed
    exact (written_iff hfree hn hv).1 hw
  · intro h g hrun
    obtain ⟨hr, hs⟩ := load_true hrun
    obtain ⟨text, password, n, v, g', hc, hn, hv, hrun', he⟩ := load_succeeds hr hs
    cases hrun.symm.trans hrun'
    exact ⟨text, _, _, hc, he, rfl, (written_iff hfree hn hv).2 (h hr hs text hc)⟩

/-- With numbers in the file, `Load` succeeds and takes them. -/
theorem takesNumbers_iff_numbers :
    (load (Demo.host true "api_password pw\napi_port 8080\napi_seed 12".toList) {}).1 = .ok true ∧
    TakesNumbers 49152
      (Demo.host true "api_password pw\napi_port 8080\napi_seed 12".toList) := by
  refine ⟨rfl, (takesNumbers_iff (by decide) _).2 fun _ _ text hc => ?_⟩
  cases hc
  exact ⟨⟨by decide, by decide⟩, by decide, by decide, ⟨by decide, by decide⟩⟩

/-- With port 70000 and seed 12ab, `Load` succeeds, and says that it listens on port 70000. The endpoint
    has port 4464 and seed 12. -/
theorem load_otherNumbers :
    ∃ g e, load (Demo.host true "api_password pw\napi_port 70000\napi_seed 12ab".toList) {} =
        (.ok true, g) ∧
      g.log = ["[SA-MP API] Starting listening on port 70000.".toList] ∧
      g.e = some e ∧ e.port = 4464 ∧ e.handler.seed = some 12 ∧
      ¬ TakesNumbers 49152
        (Demo.host true "api_password pw\napi_port 70000\napi_seed 12ab".toList) := by
  refine ⟨_, _, rfl, rfl, rfl, rfl, rfl, ?_⟩
  intro h
  obtain ⟨text, e, seed, hc, -, -, hw⟩ := h _ rfl
  cases hc
  exact absurd hw.seed_numeral.2 (by decide)

end SampApi
