import SampApi.Printing

/-!
# Blank space in a configuration

A line of a configuration may be read as its words, without regard to the amount of blank space and to
the kind of newline. `Config::Load` reads it otherwise: every single tab or space ends a field, also an
empty one, and a carriage return is a character like any other (`get_spaced`). `get_fields` says what is
read instead, that tabs and spaces may be exchanged, and that a file with single blanks between its
words and plain newlines is read as words.
-/

namespace SampApi
open Lib

namespace Config

/-! ## Words -/

/-- The words of a line: the maximal runs of characters that are no blanks. -/
def words (line : Str) : List Str := (line.splitOnP separator).filter fun w => w ≠ []

/-- A text with `\n` for each `\r\n`. -/
def plainNewlines : Str → Str
  | '\r' :: '\n' :: text => '\n' :: plainNewlines text
  | c :: text => c :: plainNewlines text
  | [] => []

/-- The words behind a key, if it is the first word of the line and there are others. -/
def wordsFor (key line : Str) : Option (List Str) :=
  match words line with
  | k :: v :: vs => if k = key then some (v :: vs) else none
  | _ => none

/-- The word at a position behind a key, on the first line that starts with the key and has another
    word. -/
def wordAt (text key : Str) (pos : Nat) : Option Str :=
  ((getlines (plainNewlines text)).findSome? (wordsFor key)).bind fun ws => ws[pos]?

/-- The text with spaces instead of tabs. -/
def untab (text : Str) : Str := text.map fun c => if c = '\t' then ' ' else c

/-- The line has single blanks between its words, and none around them. -/
def Tidy (line : Str) : Prop := line = [] ∨ ∃ ws, Joined separator line ws ∧ [] ∉ ws

/-! ## Lines -/

/-- A line is for a key if it is fields joined by single blanks, and the key is the first of them, but
    not the only one. -/
lemma lineValues_eq_some {key line : Str} {vs : List Str} :
    lineValues key line = some vs ↔ Joined separator line (key :: vs) ∧ vs ≠ [] := by
  rw [← splitOnP_eq_iff, ← split_eq, lineValues]
  split
  · rename_i k v vs' h
    rw [h]
    constructor
    · intro hk
      split at hk
      · rename_i e
        cases hk
        exact ⟨by rw [e], List.cons_ne_nil v vs'⟩
      · cases hk
    · intro hk
      obtain ⟨rfl, rfl⟩ := List.cons.inj hk.1
      rw [if_pos rfl]
  · rename_i h
    constructor
    · intro hk
      cases hk
    · intro hk
      obtain ⟨v, vs', rfl⟩ := List.exists_cons_of_ne_nil hk.2
      exact absurd hk.1 (h key v vs')

/-- A tidy line is read as its words. -/
lemma Tidy.lineValues {line : Str} (h : Tidy line) (key : Str) :
    lineValues key line = wordsFor key line := by
  rcases h with rfl | ⟨ws, hws, hne⟩
  · rfl
  · have hsplit : split line = ws := hws.splitOnP_eq
    have hfilter : ws.filter (fun w => w ≠ []) = ws := by
      apply List.filter_eq_self.2
      intro w hw
      exact decide_eq_true fun e => hne (e ▸ hw)
    have hwords : words line = split line := by
      rw [words, ← split_eq, hsplit, hfilter]
    rw [wordsFor, hwords]
    rfl

lemma findSome?_tidy {ls : List Str} (h : ∀ line ∈ ls, Tidy line) (key : Str) :
    ls.findSome? (Config.lineValues key) = ls.findSome? (wordsFor key) := by
  induction ls with
  | nil => rfl
  | cons line ls ih =>
    have hline : Tidy line := h line List.mem_cons_self
    rw [List.findSome?_cons, List.findSome?_cons, hline.lineValues key]
    cases wordsFor key line with
    | some vs => rfl
    | none => exact ih fun l hl => h l (List.mem_cons_of_mem line hl)

/-- What does not tell a tab from a space does not see that a tab was exchanged. -/
lemma untab_char {f : Char → Bool} (hf : f ' ' = f '\t') (c : Char) :
    f (if c = '\t' then ' ' else c) = f c := by
  by_cases h : c = '\t'
  · rw [if_pos h, h, hf]
  · rw [if_neg h]

/-- Without tabs in place of spaces, a line has the same fields. -/
lemma split_untab (line : Str) : split (untab line) = split line := by
  have hline : Joined separator line (split line) := joined_splitOnP line
  have hplain : (split line).map untab = split line := by
    refine (List.map_congr_left fun x hx => ?_).trans (List.map_id _)
    refine (List.map_congr_left fun c hc => ?_).trans (List.map_id x)
    have hc := hline.piece hx c hc
    rw [if_neg, id]
    intro e
    rw [e] at hc
    cases hc
  rw [← hplain]
  exact (hline.map (untab_char rfl)).splitOnP_eq

lemma firstValues_untab (key text : Str) : firstValues key (untab text) = firstValues key text := by
  have hf : ∀ c : Char, ((if c = '\t' then ' ' else c) == '\n') = (c == '\n') :=
    untab_char (f := fun c => c == '\n') rfl
  rw [firstValues, firstValues, untab, getlines_map hf, List.findSome?_map]
  congr 1
  funext line
  show lineValues key (untab line) = lineValues key line
  rw [lineValues, split_untab, lineValues]

/-! ## What is read -/

/-- A configuration is read field by field. For every file, `Get` yields the field at the position
    behind the key, on the first line whose first field is the key and that has another one, where
    fields are joined by single tabs or spaces. Files that differ only in which of the two stands where
    are read alike, and a file with single blanks between its words and plain newlines is read as
    words. -/
theorem get_fields (text : Str) :
    (∀ key p w, (load {} (some text)).2.get key p = some w ↔
      ∃ pre line post vs, getlines text = pre ++ line :: post ∧
        Joined separator line (key :: vs) ∧ vs[p]? = some w ∧
        ∀ l ∈ pre, ∀ vs, Joined separator l (key :: vs) → vs = []) ∧
    (∀ text', untab text' = untab text → ∀ key p,
      (load {} (some text')).2.get key p = (load {} (some text)).2.get key p) ∧
    (plainNewlines text = text → (∀ line ∈ getlines text, Tidy line) → ∀ key p,
      (load {} (some text)).2.get key p = wordAt text key p) := by
  refine ⟨fun key p w => ?_, fun text' h key p => ?_, fun hnl htidy key p => ?_⟩
  · have hnone : ∀ l, lineValues key l = none ↔ ∀ vs, Joined separator l (key :: vs) → vs = [] := by
      intro l
      rw [Option.eq_none_iff_forall_ne_some]
      apply forall_congr'
      intro vs
      rw [Ne, lineValues_eq_some, not_and, not_not]
    rw [get_load, Option.bind_eq_some_iff]
    constructor
    · intro h
      obtain ⟨vs, hvs, hw⟩ := h
      obtain ⟨pre, line, post, htext, hline, hpre⟩ := List.findSome?_eq_some_iff.1 hvs
      exact ⟨pre, line, post, vs, htext, (lineValues_eq_some.1 hline).1, hw,
        fun l hl => (hnone l).1 (hpre l hl)⟩
    · intro h
      obtain ⟨pre, line, post, vs, htext, hline, hw, hpre⟩ := h
      have hne : vs ≠ [] := by
        intro e
        rw [e] at hw
        cases hw
      exact ⟨vs, List.findSome?_eq_some_iff.2 ⟨pre, line, post, htext,
        lineValues_eq_some.2 ⟨hline, hne⟩, fun l hl => (hnone l).2 (hpre l hl)⟩, hw⟩
  · rw [get_load, get_load, ← firstValues_untab, h, firstValues_untab]
  · rw [get_load, wordAt, hnl, firstValues, findSome?_tidy htidy]

/-- Two spaces in front of the password make it empty, and a carriage return behind it becomes a part
    of it; read as words, both files have the password `pw`. -/
theorem get_spaced :
    (load {} (some "api_password pw\n".toList)).2.get "api_password".toList 0 = some "pw".toList ∧
    (load {} (some "api_password  pw\n".toList)).2.get "api_password".toList 0 = some [] ∧
    (load {} (some "api_password pw\r\n".toList)).2.get "api_password".toList 0 =
      some "pw\r".toList ∧
    wordAt "api_password  pw\n".toList "api_password".toList 0 = some "pw".toList ∧
    wordAt "api_password pw\r\n".toList "api_password".toList 0 = some "pw".toList := by
  rw [get_load, get_load, get_load]
  decide

end Config
end SampApi
