import SampApi.Demo
import SampApi.Naming

/-!
# The occupants of the slots

A player slot of the game may get a new occupant without a word about the old one leaving, as when a
game mode restarts. `PlayerManager::AddPlayer` inserts only where there is no entry, so the registry
holds, for each id, the first player who connected since the id was last left (`registry_first`), and
not the last one. `registry_follows_iff` says for which sequences of callbacks this is the same.
-/

namespace SampApi
open Lib

variable {W : Type}

/-! ## Sequences of callbacks -/

namespace Callback

/-- The id that the callback is about. -/
def slot : Callback → UInt32
  | connect id => id
  | disconnect id => id

def isConnect : Callback → Bool
  | connect _ => true
  | disconnect _ => false

end Callback

/-- A callback, with the state that the game is in when it comes. -/
structure Moment (W : Type) where
  world : W
  callback : Callback

/-- The inputs of the plugin at some moments. -/
def Moment.inputs (ms : List (Moment W)) : List (Input W) :=
  ms.flatMap fun m => [.game m.world, .callback m.callback]

/-- The last moment that is about an id. -/
def lastFor (id : UInt32) (ms : List (Moment W)) : Option (Moment W) :=
  ms.reverse.find? fun m => m.callback.slot = id

/-- The moments at which an id connected since it last disconnected, the latest one first. -/
def streak (id : UInt32) (ms : List (Moment W)) : List (Moment W) :=
  (ms.reverse.filter fun m => m.callback.slot = id).takeWhile fun m => m.callback.isConnect

/-- The name of the player who connects at a moment. -/
def Moment.name (env : Env W) (m : Moment W) : Str := liveName env m.world m.callback.slot

/-- The registry follows the callbacks: it has exactly the ids whose last callback was a connect, each
    with a player who has that id, and the name from that connect. -/
structure Follows (env : Env W) (ms : List (Moment W)) (m : PlayerManager) : Prop where
  present : ∀ id, (m.getPlayer id).isSome = true ↔
    ∃ last, lastFor id ms = some last ∧ last.callback = .connect id
  ids : ∀ id pl, m.getPlayer id = some pl → pl.id = id
  names : ∀ id pl last, m.getPlayer id = some pl → lastFor id ms = some last →
    pl.name = last.name env

lemma Moment.inputs_append (ms : List (Moment W)) (m : Moment W) :
    inputs (ms ++ [m]) = inputs ms ++ [.game m.world, .callback m.callback] := List.flatMap_append

/-! ## Streaks -/

lemma streak_append (id : UInt32) (ms : List (Moment W)) (m : Moment W) :
    streak id (ms ++ [m]) =
      if m.callback.slot = id then if m.callback.isConnect then m :: streak id ms else []
      else streak id ms := by
  rw [streak, List.reverse_append, List.reverse_singleton, List.singleton_append]
  by_cases h : m.callback.slot = id
  · rw [if_pos h, List.filter_cons_of_pos (by simpa using h), List.takeWhile_cons]
    rfl
  · rw [if_neg h, List.filter_cons_of_neg (by simpa using h)]
    rfl

lemma streak_connect (id j : UInt32) (ms : List (Moment W)) (w : W) :
    streak id (ms ++ [⟨w, .connect j⟩]) =
      if j = id then ⟨w, .connect j⟩ :: streak id ms else streak id ms := by
  rw [streak_append]
  rfl

lemma streak_disconnect (id j : UInt32) (ms : List (Moment W)) (w : W) :
    streak id (ms ++ [⟨w, .disconnect j⟩]) = if j = id then [] else streak id ms := by
  rw [streak_append]
  rfl

/-- The last callback was a connect exactly if the streak begins with it. -/
lemma head?_streak {id : UInt32} {ms : List (Moment W)} {m : Moment W} :
    (streak id ms).head? = some m ↔ lastFor id ms = some m ∧ m.callback = .connect id := by
  rw [streak, lastFor, ← List.head?_filter]
  cases hl : ms.reverse.filter (fun m => m.callback.slot = id) with
  | nil => simp
  | cons m' l =>
    have hm' : m' ∈ ms.reverse.filter fun m => m.callback.slot = id := by
      rw [hl]
      exact List.mem_cons_self
    have hid : m'.callback.slot = id := by simpa using (List.mem_filter.1 hm').2
    rw [List.takeWhile_cons, List.head?_cons, Option.some.injEq]
    cases hc : m'.callback with
    | connect j =>
      rw [hc] at hid
      have hid : j = id := hid
      subst hid
      constructor
      · intro h
        cases h
        exact ⟨rfl, hc⟩
      · intro h
        rw [h.1]
        rfl
    | disconnect j =>
      constructor
      · intro h
        cases h
      · intro h
        obtain ⟨rfl, h⟩ := h
        cases hc.symm.trans h

/-! ## The registry -/

/-- The registry has, for every id, the player of the first connect since the id was last left. -/
theorem registry_first (env : Env W) (p : Plugin W) (ms : List (Moment W)) (id : UInt32) :
    (after (Plugin.step env) { p with playerManager := {} }
        (Moment.inputs ms)).playerManager.getPlayer id =
      (streak id ms).getLast?.map fun m => ⟨id, m.name env⟩ := by
  induction ms using List.reverseRecOn with
  | nil => rfl
  | append_singleton ms m ih =>
    rw [Moment.inputs_append, after_append]
    generalize after (Plugin.step env) { p with playerManager := {} } (Moment.inputs ms) = s at ih
    obtain ⟨w, c⟩ := m
    cases c with
    | connect j =>
      rw [streak_connect]
      refine (s.playerManager.players.find?_emplace j id ⟨j, liveName env w j⟩).trans ?_
      by_cases h : id = j
      · subst h
        rw [if_pos rfl, if_pos rfl, List.getLast?_cons]
        show some ((s.playerManager.getPlayer id).getD _) = _
        rw [ih]
        cases (streak id ms).getLast? with
        | none => rfl
        | some m => rfl
      · rw [if_neg h, if_neg (show ¬ j = id from fun e => h e.symm)]
        exact ih
    | disconnect j =>
      rw [streak_disconnect]
      refine (s.playerManager.removePlayer_find? j id).trans ?_
      by_cases h : id = j
      · subst h
        rw [if_pos rfl, if_pos rfl]
        rfl
      · rw [if_neg h, if_neg (show ¬ j = id from fun e => h e.symm)]
        exact ih

/-- The registry follows the callbacks exactly if every id whose last callback was a connect had the
    same name already when it first connected since it was last left. -/
theorem registry_follows_iff (env : Env W) (p : Plugin W) (ms : List (Moment W)) :
    Follows env ms (after (Plugin.step env) { p with playerManager := {} }
        (Moment.inputs ms)).playerManager ↔
      ∀ id first last, (streak id ms).getLast? = some first → (streak id ms).head? = some last →
        first.name env = last.name env := by
  have hfirst := registry_first env p ms
  generalize (after (Plugin.step env) { p with playerManager := {} }
    (Moment.inputs ms)).playerManager = m at hfirst
  constructor
  · intro h id first last hf hl
    have hpl := hfirst id
    rw [hf] at hpl
    exact h.names id _ last hpl (head?_streak.1 hl).1
  · intro h
    refine ⟨fun id => ?_, fun id pl hpl => ?_, fun id pl last hpl hlast => ?_⟩
    · rw [hfirst, Option.isSome_map, List.getLast?_isSome, ← List.isSome_head?,
        Option.isSome_iff_exists]
      exact exists_congr fun _ => head?_streak
    · rw [hfirst, Option.map_eq_some_iff] at hpl
      obtain ⟨first, -, rfl⟩ := hpl
      rfl
    · rw [hfirst, Option.map_eq_some_iff] at hpl
      obtain ⟨first, hf, rfl⟩ := hpl
      -- where there is a first connect there is a last one
      cases hhead : (streak id ms).head? with
      | none =>
        rw [List.head?_eq_none_iff.1 hhead] at hf
        cases hf
      | some last' =>
        cases hlast.symm.trans (head?_streak.1 hhead).1
        exact h id first last hf hhead

/-- Player 1 connects as `bob`, and another player connects to the same slot. -/
def Demo.restart : List (Moment Demo.Game) := [
  ⟨{ names := [(1, "bob".toList)] }, .connect 1⟩,
  ⟨{ names := [(1, "alice".toList)] }, .connect 1⟩]

/-- After the second connect, the registry still has the first player. -/
theorem restart_stale :
    let m := (after (Plugin.step Demo.env) { Demo.plugin {} with playerManager := {} }
      (Moment.inputs Demo.restart)).playerManager
    m.getPlayer 1 = some ⟨1, "bob".toList⟩ ∧ ¬ Follows Demo.env Demo.restart m := by
  intro m
  have hm : m.getPlayer 1 = some ⟨1, "bob".toList⟩ := by
    show (after (Plugin.step Demo.env) _ (Moment.inputs Demo.restart)).playerManager.getPlayer 1 = _
    rw [registry_first]
    decide
  refine ⟨hm, fun h => ?_⟩
  have hname := h.names 1 _ ⟨{ names := [(1, "alice".toList)] }, .connect 1⟩ hm (by rfl)
  exact absurd hname (by decide)

end SampApi
