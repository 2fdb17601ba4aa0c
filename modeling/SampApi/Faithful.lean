import SampApi.Lib.Width
import SampApi.Listing

/-!
# What a row keeps of the game's data

A row has narrower fields than the replies of the natives: the address is stored in a buffer of 15
bytes, which the longest addresses do not fit into, the score loses its sign, and the skin and the ping
are cut to 16 bits. `getPlayerData_faithful_iff` says which replies come through.
-/

namespace SampApi
open Lib

variable {W : Type}

/-! ## Addresses -/

/-- A number of an address: one to three digits, at most 255. -/
structure Octet (x : Str) : Prop where
  numeral : IsNumeral x
  length : x.length ≤ 3
  value : digitsValue x ≤ 255

/-- Four numbers, joined by dots. -/
def DottedQuad (text : Str) : Prop :=
  ∃ xs, Joined (fun c => c = '.') text xs ∧ xs.length = 4 ∧ ∀ x ∈ xs, Octet x

lemma DottedQuad.no_nul {text : Str} (h : DottedQuad text) : '\x00' ∉ text := by
  obtain ⟨xs, hjoined, -, hoctets⟩ := h
  intro hnul
  rcases hjoined.mem hnul with hsep | ⟨x, hx, hmem⟩
  · cases hsep
  · cases List.all_eq_true.1 (hoctets x hx).numeral.2 _ hmem

/-- A buffer holds a text exactly if the text is shorter than the buffer. -/
lemma stored_eq_iff {size : Nat} (hsize : 0 < size) {text : Str} (h : '\x00' ∉ text) :
    stored size text = text ↔ text.length < size := by
  have hstored : stored size text = text.take (size - 1) := by
    apply List.takeWhile_eq_self_iff.2
    intro c hc
    apply decide_eq_true
    rintro rfl
    exact h (List.mem_of_mem_take hc)
  rw [hstored, List.take_eq_self_iff]
  omega

/-! ## Rows -/

namespace Row

/-- The replies are data of a player: the address is a dotted quad, and the skin, the ping and the
    vehicle are not negative. -/
structure Regular (r : Row) : Prop where
  addr : DottedQuad r.addr
  skin : 0 ≤ r.skin.toInt
  ping : 0 ≤ r.ping.toInt
  vehicleID : 0 ≤ r.vehicleID.toInt

/-- What the response has is what the game replied. -/
structure Faithful (r : Row) (d : PlayerData) : Prop where
  ip : d.ip = r.addr
  skin : (d.skin.toNat : Int) = r.skin.toInt
  score : (d.score.toNat : Int) = r.score.toInt
  ping : (d.ping.toNat : Int) = r.ping.toInt
  vehicleID : (d.vehicleID.toNat : Int) = r.vehicleID.toInt

/-- The replies fit into the fields of the response. -/
structure Fits (r : Row) : Prop where
  addr : r.addr.length < 15
  skin : r.skin.toInt < 2 ^ 16
  score : 0 ≤ r.score.toInt
  ping : r.ping.toInt < 2 ^ 16

/-- As a `uint32_t`, an `int` stays the same exactly if it is not negative. -/
lemma toUInt32_toNat_iff (x : Int32) : (x.toUInt32.toNat : Int) = x.toInt ↔ 0 ≤ x.toInt :=
  toNat_eq_toInt_iff x.toBitVec

/-- As a `uint16_t`, an `int` that is not negative stays the same exactly if it has 16 bits. -/
lemma toUInt16_toNat_iff {x : Int32} (h : 0 ≤ x.toInt) :
    (x.toUInt32.toUInt16.toNat : Int) = x.toInt ↔ x.toInt < 2 ^ 16 := by
  have hcut : x.toUInt32.toUInt16.toNat = x.toUInt32.toNat ↔ x.toUInt32.toNat < 2 ^ 16 :=
    toNat_setWidth_eq_iff x.toBitVec 16
  have hsame := (toUInt32_toNat_iff x).2 h
  omega

/-- A row is faithful exactly if its replies fit. -/
theorem faithful_iff {r : Row} (h : r.Regular) : r.Faithful r.data ↔ r.Fits := by
  have hip : r.data.ip = r.addr ↔ r.addr.length < 15 := stored_eq_iff (by decide) h.addr.no_nul
  constructor
  · intro hf
    exact ⟨hip.1 hf.ip, (toUInt16_toNat_iff h.skin).1 hf.skin, (toUInt32_toNat_iff _).1 hf.score,
      (toUInt16_toNat_iff h.ping).1 hf.ping⟩
  · intro hf
    exact ⟨hip.2 hf.addr, (toUInt16_toNat_iff h.skin).2 hf.skin, (toUInt32_toNat_iff _).2 hf.score,
      (toUInt16_toNat_iff h.ping).2 hf.ping, (toUInt32_toNat_iff _).2 h.vehicleID⟩

end Row

/-! ## The list -/

/-- `GetPlayerData` makes a row of the replies for every registered player, and a row has what the game
    replied exactly if the address has less than 15 characters, the score is not negative, and the
    skin and the ping have 16 bits. -/
theorem getPlayerData_faithful_iff (env : Env W) (data : List PlayerData) (s : Plugin W) :
    ∃ (rows : List Row) (q : Plugin W),
      PlayerManager.getPlayerData env data s = (.ok (data ++ rows.map Row.data), q) ∧
      rows.map (fun row => (row.id, row.login)) =
        (s.playerManager.players.toList env.order).map (fun it => (it.2.id, it.2.name)) ∧
      q.calls = s.calls ++ rows.flatMap Row.calls ∧
      ∀ row ∈ rows, row.Regular → (row.Faithful row.data ↔ row.Fits) := by
  obtain ⟨rows, q, hids, hpush, hcalls⟩ :=
    pushPlayerData_rows env (s.playerManager.players.toList env.order) data s
  refine ⟨rows, q, ?_, hids, hcalls, fun row _ h => Row.faithful_iff h⟩
  rw [PlayerManager.getPlayerData, Prog.gets_bind_run]
  exact hpush

section Example
open Demo

/-- The small game, with a player who comes from far away and has lost a point. -/
def Demo.farEnv : Env Game :=
  { env with
    game := fun
      | .GetPlayerName _ _, g => (("bob".toList : Str), g)
      | .GetPlayerScore _, g => ((-1 : Int32), g)
      | .GetPlayerIp _ _, g => (("255.255.255.255".toList : Str), g)
      | n, g => play n g }

/-- The replies for that player. -/
def Demo.farRow : Row :=
  ⟨1, "bob".toList, (⟨0⟩, ⟨0⟩, ⟨0⟩), "bob".toList, ⟨0⟩, ⟨0⟩, 0, -1, "255.255.255.255".toList, 40, 0, false⟩

/-- The plugin after the player has connected. -/
def Demo.registered : Plugin Game := (pair.step env (.callback (.connect 1))).1

lemma Demo.farRow_regular : farRow.Regular := by
  refine ⟨⟨List.replicate 4 "255".toList, splitOnP_eq_iff.1 rfl, rfl, fun x hx => ?_⟩,
    by decide, by decide, by decide⟩
  rw [List.eq_of_mem_replicate hx]
  exact ⟨⟨List.cons_ne_nil _ _, rfl⟩, by decide, by decide⟩

lemma Demo.farRow_run (s : Plugin Game) :
    ∃ t, PlayerManager.playerData farEnv ⟨1, "bob".toList⟩ s = (.ok farRow.data, t) ∧
      t.calls = s.calls ++ farRow.calls := by
  refine ⟨_, rfl, ?_⟩
  simp only [List.append_assoc, List.singleton_append]
  rfl

/-- The row of the player has another address, and another score, than the game has replied. -/
theorem farRow_unfaithful :
    (∃ q, PlayerManager.getPlayerData farEnv [] registered = (.ok [farRow.data], q) ∧
      q.calls = registered.calls ++ farRow.calls) ∧
    farRow.Regular ∧ farRow.data.ip = "255.255.255.25".toList ∧ farRow.data.score = 4294967295 ∧
    ¬ farRow.Faithful farRow.data := by
  have hits : registered.playerManager.players.toList farEnv.order = [(1, ⟨1, "bob".toList⟩)] := by
    decide +kernel
  obtain ⟨t, hrun, hcalls⟩ := farRow_run registered
  refine ⟨⟨t, ?_, hcalls⟩, farRow_regular, rfl, rfl, fun h => ?_⟩
  · rw [PlayerManager.getPlayerData, Prog.gets_bind_run, hits, PlayerManager.pushPlayerData,
      Prog.bind_ok hrun]
    rfl
  · have hlength := (Row.faithful_iff farRow_regular).1 h
    exact absurd hlength.addr (by decide)

end Example

end SampApi
