import SampApi.Server

/-!
# The registry follows the callbacks

Which players are connected is told by the callbacks that the plugin got, also by those that it gets
while a native runs. Along every run the registry has exactly the connected players, each under its
own id (`step_tracked`), and a request can only remove players from it (`step_request_shrinks`).

The callbacks are those on record, and these are exactly the ones that come as inputs, and those that the
game makes in the native calls of requests (`after_callbacks`).
-/

namespace SampApi
open Lib Prog

variable {W : Type}

/-! ## Connected players -/

/-- The connected players after a callback. -/
def Callback.apply (on : List UInt32) : Callback → List UInt32
  | connect id => on.insert id
  | disconnect id => on.filter fun j => j ≠ id

/-- The connected players after some callbacks. -/
def onlineIds (cs : List Callback) : List UInt32 := cs.foldl Callback.apply []

/-- No player connects who is connected, and none disconnects who is not. -/
def alternatingFrom : List UInt32 → List Callback → Bool
  | _, [] => true
  | on, .connect id :: cs => id ∉ on && alternatingFrom (Callback.apply on (.connect id)) cs
  | on, .disconnect id :: cs => id ∈ on && alternatingFrom (Callback.apply on (.disconnect id)) cs

lemma onlineIds_append (cs : List Callback) (c : Callback) :
    onlineIds (cs ++ [c]) = Callback.apply (onlineIds cs) c := by
  rw [onlineIds, List.foldl_append]
  rfl

lemma mem_onlineIds_connect {cs : List Callback} {id j : UInt32} :
    j ∈ onlineIds (cs ++ [.connect id]) ↔ j = id ∨ j ∈ onlineIds cs := by
  rw [onlineIds_append]
  exact List.mem_insert_iff

lemma mem_onlineIds_disconnect {cs : List Callback} {id j : UInt32} :
    j ∈ onlineIds (cs ++ [.disconnect id]) ↔ j ∈ onlineIds cs ∧ j ≠ id := by
  rw [onlineIds_append]
  simp [Callback.apply]

/-! ## The registry -/

/-- The registry has exactly the connected players, each under its own id. -/
structure Plugin.Tracked (s : Plugin W) : Prop where
  ids : ∀ {id pl}, s.playerManager.players.find? id = some pl → pl.id = id
  online : ∀ {id}, id ∈ onlineIds s.callbacks ↔ ∃ pl, s.playerManager.players.find? id = some pl

lemma PlayerManager.removePlayer_find? (m : PlayerManager) (id j : UInt32) :
    (m.removePlayer id).players.find? j = if j = id then none else m.players.find? j := by
  rw [removePlayer]
  split
  · exact m.players.find?_erase id j
  · rename_i h
    split
    · rename_i e
      rw [e]
      exact h
    · rfl

lemma Plugin.leaveAll_find? (p : Plugin W) (ids : List UInt32) (j : UInt32) :
    (p.leaveAll ids).playerManager.players.find? j =
      if j ∈ ids then none else p.playerManager.players.find? j := by
  induction ids generalizing p with
  | nil => rfl
  | cons id ids ih =>
    have h := ih (p.leave id)
    rw [show (p.leave id).playerManager.players.find? j = _ from
      p.playerManager.removePlayer_find? id j] at h
    apply h.trans
    by_cases hj : j = id
    · simp [hj]
    · by_cases hm : j ∈ ids <;> simp [hj, hm]

namespace Plugin.Tracked
variable {s t : Plugin W}

lemma congr (h : s.Tracked) (hc : t.callbacks = s.callbacks)
    (hm : t.playerManager = s.playerManager) : t.Tracked := by
  refine ⟨fun {id pl} => ?_, fun {id} => ?_⟩
  · rw [hm]
    exact h.ids
  · rw [hm, hc]
    exact h.online

lemma leave (h : s.Tracked) (id : UInt32) : (s.leave id).Tracked := by
  have hfind : ∀ j, (s.leave id).playerManager.players.find? j = _ := fun j =>
    s.playerManager.removePlayer_find? id j
  refine ⟨fun {j pl} hj => ?_, fun {j} => ?_⟩
  · rw [hfind] at hj
    split at hj
    · cases hj
    · exact h.ids hj
  · rw [hfind]
    apply mem_onlineIds_disconnect.trans
    rw [h.online]
    by_cases hj : j = id <;> simp [hj]

lemma leaveAll (h : s.Tracked) (ids : List UInt32) : (s.leaveAll ids).Tracked := by
  induction ids generalizing s with
  | nil => exact h
  | cons id ids ih => exact ih (h.leave id)

/-- A player who connects is registered, unless it is already. -/
lemma connect (h : s.Tracked) (pl : Player)
    (hc : t.callbacks = s.callbacks ++ [.connect pl.id])
    (hm : t.playerManager = ⟨s.playerManager.players.emplace pl.id pl⟩) : t.Tracked := by
  have hfind : ∀ j, t.playerManager.players.find? j = if j = pl.id then
      some ((s.playerManager.players.find? pl.id).getD pl) else
      s.playerManager.players.find? j := by
    intro j
    rw [hm]
    exact s.playerManager.players.find?_emplace pl.id j pl
  refine ⟨fun {j q} hj => ?_, fun {j} => ?_⟩
  · rw [hfind] at hj
    split at hj
    · rename_i e
      subst e
      -- an older entry of the player stays
      cases hf : s.playerManager.players.find? pl.id with
      | none =>
        rw [hf] at hj
        cases hj
        rfl
      | some q' =>
        rw [hf] at hj
        cases hj
        exact h.ids hf
    · exact h.ids hj
  · rw [hfind, hc, mem_onlineIds_connect, h.online]
    by_cases hj : j = pl.id <;> simp [hj]

end Plugin.Tracked

lemma initial_tracked {p : Plugin W} (hc : p.callbacks = []) (hm : p.playerManager = {}) :
    p.Tracked := by
  refine ⟨fun {id pl} h => ?_, fun {id} => ?_⟩
  · rw [hm] at h
    cases h
  · rw [hc, hm]
    exact ⟨nofun, nofun⟩

/-! ## Inputs -/

/-- The registry of the second plugin follows the callbacks if that of the first one does, and it has
    no player who is not in the first one. -/
structure Plugin.Shrinks (s t : Plugin W) : Prop where
  tracked : s.Tracked → t.Tracked
  subset : ∀ {id pl}, t.playerManager.players.find? id = some pl →
    s.playerManager.players.find? id = some pl

namespace Plugin.Shrinks

lemma of_eq {s t : Plugin W} (hc : t.callbacks = s.callbacks)
    (hm : t.playerManager = s.playerManager) : s.Shrinks t := by
  refine ⟨fun h => h.congr hc hm, fun {id pl} h => ?_⟩
  rw [hm] at h
  exact h

lemma trans {s t u : Plugin W} (h : s.Shrinks t) (h' : t.Shrinks u) : s.Shrinks u :=
  ⟨fun hs => h'.tracked (h.tracked hs), fun hu => h.subset (h'.subset hu)⟩

lemma leaveAll (s : Plugin W) (ids : List UInt32) : s.Shrinks (s.leaveAll ids) := by
  refine ⟨fun h => h.leaveAll ids, fun {id pl} h => ?_⟩
  rw [s.leaveAll_find?] at h
  split at h
  · cases h
  · exact h

end Plugin.Shrinks

lemma Basic.shrinks {env : Env W} {α : Type} {c : Act W α} (h : Basic env c) :
    Frame Plugin.Shrinks c := by
  intro s
  cases h with
  | native n => exact .of_eq rfl rfl
  | disconnect pl =>
    rw [pl.disconnect_run]
    have hc : s.Shrinks (s.called env (.Kick pl.id)) := .of_eq rfl rfl
    exact hc.trans (.leaveAll _ _)
  | ban pl =>
    rw [pl.ban_run]
    have hc : s.Shrinks (s.called env (.Ban pl.id)) := .of_eq rfl rfl
    exact hc.trans (.leaveAll _ _)
  | players => exact .of_eq rfl rfl
  | log line => exact .of_eq rfl rfl

/-- A request registers nobody. -/
theorem step_request_shrinks (env : Env W) (req : Request) (remote : Str) (time : Int)
    {s : Plugin W} (hs : s.handler.Registered) :
    s.Shrinks (s.step env (.request req remote time)).1 :=
  step_request_frame (fun _ _ _ h h' => h.trans h') Basic.shrinks
    (fun h => .of_eq h.callbacks h.playerManager) req remote time hs

/-- Every input leaves the registry with exactly the connected players. -/
theorem step_tracked (env : Env W) {s : Plugin W} (hs : s.handler.Registered) (h : s.Tracked)
    (e : Input W) : (s.step env e).1.Tracked := by
  cases e with
  | callback c =>
    cases c with
    | connect id => exact h.connect ⟨id, _⟩ rfl rfl
    | disconnect id => exact h.leave id
  | game w => exact h.congr rfl rfl
  | request req remote time => exact (step_request_shrinks env req remote time hs).tracked h

/-! ## The record of the callbacks -/

/-- The players that left while the native was called. -/
def Call.left (c : Call) : List UInt32 := c.native.left c.reply

/-- The second plugin has made some more native calls than the first one, and got the callbacks that the
    game made in them. -/
def Plugin.Reenters (s t : Plugin W) : Prop :=
  ∃ cs : List Call, t.calls = s.calls ++ cs ∧
    t.callbacks = s.callbacks ++ (cs.flatMap Call.left).map .disconnect

lemma Plugin.Reenters.of_eq {s t : Plugin W} (hcalls : t.calls = s.calls)
    (hcallbacks : t.callbacks = s.callbacks) : s.Reenters t :=
  ⟨[], by simp [hcalls], by simp [hcallbacks]⟩

lemma Plugin.Reenters.trans {s t u : Plugin W} (h : s.Reenters t) (h' : t.Reenters u) :
    s.Reenters u := by
  obtain ⟨cs, hcalls, hcallbacks⟩ := h
  obtain ⟨cs', hcalls', hcallbacks'⟩ := h'
  refine ⟨cs ++ cs', ?_, ?_⟩
  · rw [hcalls', hcalls, List.append_assoc]
  · rw [hcallbacks', hcallbacks, List.flatMap_append, List.map_append, List.append_assoc]

lemma Plugin.leaveAll_callbacks (p : Plugin W) (ids : List UInt32) :
    (p.leaveAll ids).callbacks = p.callbacks ++ ids.map .disconnect := by
  induction ids generalizing p with
  | nil => exact (List.append_nil _).symm
  | cons id ids ih =>
    apply (ih (p.leave id)).trans
    exact List.append_assoc _ [Callback.disconnect id] _

/-- A native call, with the callbacks that come from inside of it. -/
lemma Plugin.Reenters.called (env : Env W) (s : Plugin W) (n : Native) :
    s.Reenters ((s.called env n).leaveAll (n.left (env.game n s.world).1)) := by
  refine ⟨[⟨n, (env.game n s.world).1⟩], leaveAll_calls _ _, ?_⟩
  rw [leaveAll_callbacks, List.flatMap_singleton]
  rfl

lemma Basic.reenters {env : Env W} {α : Type} {c : Act W α} (h : Basic env c) :
    Frame Plugin.Reenters c := by
  intro s
  cases h with
  | native n hn =>
    have h := Plugin.Reenters.called env s n
    rw [hn] at h
    exact h
  | disconnect pl =>
    rw [pl.disconnect_run]
    exact .called env s (.Kick pl.id)
  | ban pl =>
    rw [pl.ban_run]
    exact .called env s (.Ban pl.id)
  | players => exact .of_eq rfl rfl
  | log line => exact .of_eq rfl rfl

/-- The callbacks that the plugin gets with an input: the one that it is, or those that the game makes in
    the native calls of a request. -/
def Input.callbacks (env : Env W) (s : Plugin W) : Input W → List Callback
  | callback c => [c]
  | game _ => []
  | request req remote time =>
    let calls := (s.step env (.request req remote time)).1.calls.drop s.calls.length
    (calls.flatMap Call.left).map .disconnect

/-- Every input adds its callbacks to the record, and nothing else does. -/
lemma step_callbacks (env : Env W) {s : Plugin W} (hs : s.handler.Registered) (e : Input W) :
    (s.step env e).1.callbacks = s.callbacks ++ e.callbacks env s := by
  cases e with
  | callback c => cases c <;> rfl
  | game w => exact (List.append_nil _).symm
  | request req remote time =>
    obtain ⟨cs, hcalls, hcallbacks⟩ : s.Reenters (s.step env (.request req remote time)).1 :=
      step_request_frame (fun _ _ _ h h' => h.trans h') Basic.reenters
        (fun h => .of_eq h.calls h.callbacks) req remote time hs
    rw [hcallbacks, Input.callbacks, hcalls, List.drop_left]

/-- The record after a run: the callbacks of its inputs, one after the other. -/
theorem after_callbacks (env : Env W) {p : Plugin W} (hp : p.handler.Registered)
    (es : List (Input W)) :
    (after (Plugin.step env) p es).callbacks =
      p.callbacks ++ collect (Plugin.step env) (fun s e => e.callbacks env s) p es :=
  after_collect (I := fun s : Plugin W => s.handler.Registered)
    (fun _ e h => (step_settings env h e).registered h) (fun _ e h => step_callbacks env h e) hp es

/-- If there are no requests, the record has the callbacks that came as inputs. -/
lemma after_callback_inputs (env : Env W) {p : Plugin W} (hp : p.handler.Registered)
    (cs : List Callback) :
    (after (Plugin.step env) p (cs.map .callback)).callbacks = p.callbacks ++ cs := by
  rw [after_callbacks env hp]
  congr 1
  clear hp
  induction cs generalizing p with
  | nil => rfl
  | cons c cs ih => exact congrArg (c :: ·) ih

end SampApi
