import SampApi.Registry

/-!
# Kicking and banning by name

The loops of `PlayerManager::Kick` and `PlayerManager::Ban` hold a reference to the entry that they are
at, while the native may call `OnPlayerDisconnect` and so erase that very entry. Here they are read once
more, with every access going through the reference (`deref`), which is undefined once the entry is
gone. It never comes to that (`kickRef_eq`, `banRef_eq`). What the loops do is `Removes`, and it does
not depend on the order of iteration if all logins are different (`findLogin_order`).
-/

namespace SampApi
open Lib

variable {W : Type}

/-! ## References -/

/-- Reads an entry through a reference to it. -/
def deref (key : UInt32) : Act W Player := do
  match ← Prog.gets fun s => s.playerManager.players.find? key with
  | some p => return p
  | none => Prog.raise .undefined

/-- Kicks the player of an entry (source `Player::Disconnect`). -/
def Player.disconnectRef (env : Env W) (key : UInt32) : Act W Bool := do
  let p ← deref key
  let r ← native env (.Kick p.id)
  reenter r.left
  return r.ok

/-- Bans the player of an entry (source `Player::Ban`). -/
def Player.banRef (env : Env W) (key : UInt32) : Act W Bool := do
  let p ← deref key
  let r ← native env (.Ban p.id)
  reenter r.left
  return r.ok

namespace PlayerManager

/-- The loop of `PlayerManager::Kick` and `PlayerManager::Ban`, over references to the entries. -/
def forLoginRef (act : UInt32 → Act W Bool) (name : Str) : List UInt32 → Act W Bool
  | [] => return false
  | key :: keys => do
    let p ← deref key
    if p.name ≠ name then do
      let _ ← deref key -- the iterator reads its entry on the way to the next one
      forLoginRef act name keys
    else act key

/-- Kicks the player with a name (source `PlayerManager::Kick`). -/
def kickRef (env : Env W) (name : Str) : Act W Bool := do
  let keys ← Prog.gets fun s => (s.playerManager.players.toList env.order).map Prod.fst
  forLoginRef (Player.disconnectRef env) name keys

/-- Bans the player with a name (source `PlayerManager::Ban`). -/
def banRef (env : Env W) (name : Str) : Act W Bool := do
  let keys ← Prog.gets fun s => (s.playerManager.players.toList env.order).map Prod.fst
  forLoginRef (Player.banRef env) name keys

end PlayerManager

lemma deref_bind_run {α : Type} {key : UInt32} {p : Player} {s : Plugin W} (k : Player → Act W α)
    (h : s.playerManager.players.find? key = some p) : (deref key >>= k) s = k p s := by
  have hd : (deref key : Act W Player) s = (.ok p, s) := by
    rw [deref, Prog.gets_bind_run, h]
    rfl
  exact Prog.bind_ok hd

namespace PlayerManager

/-- As long as the loop is at its entries, they are there. -/
lemma forLoginRef_run {actRef : UInt32 → Act W Bool} {act : Player → Act W Bool} {s : Plugin W}
    (hact : ∀ {id pl}, s.playerManager.players.find? id = some pl → actRef id s = act pl s)
    (name : Str) {its : List (UInt32 × Player)}
    (hits : ∀ it ∈ its, s.playerManager.players.find? it.1 = some it.2) :
    forLoginRef actRef name (its.map Prod.fst) s = forLogin act name its s := by
  induction its with
  | nil => rfl
  | cons it its ih =>
    have hit := hits it List.mem_cons_self
    have hrest := ih fun it' h => hits it' (List.mem_cons_of_mem it h)
    rw [List.map_cons, forLoginRef, deref_bind_run _ hit, forLogin]
    split
    · rw [deref_bind_run _ hit]
      exact hrest
    · exact hact hit

lemma toList_find? {o : IterationOrder UInt32 Player} {m : HashMap UInt32 Player} :
    ∀ it ∈ m.toList o, m.find? it.1 = some it.2 := by
  intro it h
  exact HashMap.mem_toList.1 h

/-- `Kick` reads no erased entry. -/
theorem kickRef_eq (env : Env W) (name : Str) (s : Plugin W) :
    kickRef env name s = kick env name s := by
  rw [kickRef, kick, Prog.gets_bind_run, Prog.gets_bind_run]
  exact forLoginRef_run (fun h => deref_bind_run _ h) name toList_find?

/-- `Ban` reads no erased entry. -/
theorem banRef_eq (env : Env W) (name : Str) (s : Plugin W) :
    banRef env name s = ban env name s := by
  rw [banRef, ban, Prog.gets_bind_run, Prog.gets_bind_run]
  exact forLoginRef_run (fun h => deref_bind_run _ h) name toList_find?

end PlayerManager

/-! ## What the loops do -/

/-- The entry of a player with the name is in the registry. -/
def Plugin.HasLogin (s : Plugin W) (name : Str) (pl : Player) : Prop :=
  (∃ id, s.playerManager.players.find? id = some pl) ∧ pl.name = name

/-- All registered players have different logins. -/
def Plugin.DistinctLogins (s : Plugin W) : Prop :=
  ∀ {id id' pl pl'}, s.playerManager.players.find? id = some pl →
    s.playerManager.players.find? id' = some pl' → pl.name = pl'.name → pl = pl'

/-- A program removes the player with a name by one native call. `call` is that call for an id with
    the reply of the game, and `reply` its reply. -/
structure Removes (s : Plugin W) (name : Str) (call : UInt32 → Call) (reply : UInt32 → Removal)
    (r : Except Exn Bool × Plugin W) : Prop where
  hit : (∃ pl, s.HasLogin name pl) → ∃ pl, s.HasLogin name pl ∧
    r.2.calls = s.calls ++ [call pl.id] ∧ r.1 = .ok (reply pl.id).ok ∧
    (∀ id, r.2.playerManager.players.find? id =
      if id ∈ (reply pl.id).left then none else s.playerManager.players.find? id) ∧
    ((reply pl.id).left = [] → r.2.playerManager = s.playerManager)
  miss : (∀ pl, ¬ s.HasLogin name pl) → r = (.ok false, s)

section Search
variable {o : IterationOrder UInt32 Player} {s : Plugin W} {name : Str} {pl : Player}

lemma hasLogin_of_findLogin (h : findLogin name (s.playerManager.players.toList o) = some pl) :
    s.HasLogin name pl := by
  obtain ⟨⟨id, hid⟩, hname⟩ := findLogin_mem h
  exact ⟨⟨id, HashMap.mem_toList.1 hid⟩, hname⟩

lemma findLogin_eq_none :
    findLogin name (s.playerManager.players.toList o) = none ↔ ∀ pl, ¬ s.HasLogin name pl := by
  rw [findLogin_none]
  constructor
  · intro h pl hpl
    obtain ⟨⟨id, hid⟩, hname⟩ := hpl
    exact h (id, pl) (HashMap.mem_toList.2 hid) hname
  · intro h it hit hname
    exact h it.2 ⟨⟨it.1, HashMap.mem_toList.1 hit⟩, hname⟩

/-- With different logins, the player that is found does not depend on the order of iteration. -/
lemma findLogin_order (h : s.DistinctLogins) (o o' : IterationOrder UInt32 Player) (name : Str) :
    findLogin name (s.playerManager.players.toList o) =
      findLogin name (s.playerManager.players.toList o') := by
  cases hf : findLogin name (s.playerManager.players.toList o) with
  | none => exact (findLogin_eq_none.2 (findLogin_eq_none.1 hf)).symm
  | some pl =>
    have hpl := hasLogin_of_findLogin hf
    cases hf' : findLogin name (s.playerManager.players.toList o') with
    | none => exact absurd hpl (findLogin_eq_none.1 hf' pl)
    | some pl' =>
      obtain ⟨⟨id, hid⟩, hname⟩ := hpl
      obtain ⟨⟨id', hid'⟩, hname'⟩ := hasLogin_of_findLogin hf'
      rw [h hid hid' (hname.trans hname'.symm)]

end Search

lemma removes_of_run {env : Env W} {s : Plugin W} {name : Str} {call : UInt32 → Call}
    {reply : UInt32 → Removal} {act : Player → Act W Bool} {r : Except Exn Bool × Plugin W}
    (hr : r = match findLogin name (s.playerManager.players.toList env.order) with
      | some pl => act pl s
      | none => (.ok false, s))
    (hact : ∀ pl, ∃ w, act pl s = (.ok (reply pl.id).ok,
      { s with world := w, calls := s.calls ++ [call pl.id] }.leaveAll (reply pl.id).left)) :
    Removes s name call reply r := by
  cases hf : findLogin name (s.playerManager.players.toList env.order) with
  | none =>
    rw [hf] at hr
    have hno := findLogin_eq_none.1 hf
    refine ⟨fun h => ?_, fun _ => hr⟩
    obtain ⟨pl, hpl⟩ := h
    exact absurd hpl (hno pl)
  | some pl =>
    rw [hf] at hr
    have hpl := hasLogin_of_findLogin hf
    obtain ⟨w, hrun⟩ := hact pl
    have hr : r = _ := hr.trans hrun
    refine ⟨fun _ => ⟨pl, hpl, ?_⟩, fun h => absurd hpl (h pl)⟩
    rw [hr]
    refine ⟨Plugin.leaveAll_calls _ _, rfl, fun id => Plugin.leaveAll_find? _ _ id, fun hleft => ?_⟩
    rw [hleft]
    rfl

open PlayerManager in
/-- Kicking and banning by name is exact. For every registry and every order of iteration, `Kick` and
    `Ban` call their native once, for the id of a player with that login, and return its result; if
    nobody has the login they call no native and return `false`. They read no entry that was erased
    meanwhile; after them the entries of the players that the game has let go are gone, and no other
    entry has changed. If all logins are different, they do the same for every order of iteration. -/
theorem kick_ban_exact (env : Env W) (name : Str) (s : Plugin W) :
    (kickRef env name s = kick env name s ∧
      Removes s name (fun id => ⟨.Kick id, (env.game (.Kick id) s.world).1⟩)
        (fun id => (env.game (.Kick id) s.world).1) (kick env name s)) ∧
    (banRef env name s = ban env name s ∧
      Removes s name (fun id => ⟨.Ban id, (env.game (.Ban id) s.world).1⟩)
        (fun id => (env.game (.Ban id) s.world).1) (ban env name s)) ∧
    (s.DistinctLogins → ∀ o, kick { env with order := o } name s = kick env name s ∧
      ban { env with order := o } name s = ban env name s) := by
  refine ⟨⟨kickRef_eq env name s, ?_⟩, ⟨banRef_eq env name s, ?_⟩, fun h o => ⟨?_, ?_⟩⟩
  · exact removes_of_run (kick_run env name s) fun pl => ⟨_, pl.disconnect_run env s⟩
  · exact removes_of_run (ban_run env name s) fun pl => ⟨_, pl.ban_run env s⟩
  · rw [kick_run, kick_run, findLogin_order h o env.order]
    rfl
  · rw [ban_run, ban_run, findLogin_order h o env.order]
    rfl

end SampApi
