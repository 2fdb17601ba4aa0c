import Mathlib.Data.Char
import Mathlib.Data.List.Lex
import SampApi.Lib.Map
import SampApi.Types

/-!
# Configuration

Model of `src/api/Config.cpp`. A line of the file is split at every single tab or space; its first
field is the key, the others are the values, and a line without separator is skipped. The first line
of a key wins, because `emplace` leaves an entry that is there alone. `load_find?` says so for a whole
file.
-/

namespace SampApi
open Lib

/-- The entries read from a configuration file. -/
structure Config where
  entries : OrdMap Str (List Str) := .empty

namespace Config

/-- The fields of a line (source `boost::split` with `is_any_of("\t ")`). -/
def split (line : Str) : List Str := line.splitOnP fun c => c = '\t' || c = ' '

/-- The body of the loop over the lines in `Config::Load`. -/
def addLine (c : Config) (line : Str) : Config :=
  match split line with
  | index :: v :: vs => ⟨c.entries.emplace index (v :: vs)⟩
  | _ => c

/-- Reads a file, given by its content if it can be opened (source `Config::Load`). -/
def load (c : Config) (file : Option Str) : Bool × Config :=
  match file with
  | none => (false, c)
  | some text => (true, (getlines text).foldl addLine c)

/-- The value of a key at a position (source `Config::Get` into a string); `none` is the result
    `false`, which leaves the destination alone. -/
def get (c : Config) (index : Str) (pos : Nat) : Option Str :=
  match c.entries.find? index with
  | some vs => if pos ≥ vs.length then none else vs[pos]?
  | none => none

/-- The value of a key at a position, or a default (source `Config::Get` with `def`). -/
def getDef (c : Config) (index dflt : Str) (pos : Nat) : Str := (c.get index pos).getD dflt

/-- Appends all values of a key to `args` (source `Config::Get` into a vector). -/
def getAll (c : Config) (index : Str) (args : List Str) : Bool × List Str :=
  match c.entries.find? index with
  | some vs => (true, args ++ vs)
  | none => (false, args)

/-! ## The file behind the entries -/

/-- The values a line gives to a key: the fields behind it, if it is the first field and there are
    others. -/
def lineValues (key line : Str) : Option (List Str) :=
  match split line with
  | k :: v :: vs => if k = key then some (v :: vs) else none
  | _ => none

/-- The values that the first line for a key gives to it. -/
def firstValues (key text : Str) : Option (List Str) := (getlines text).findSome? (lineValues key)

lemma addLine_find? (c : Config) (line key : Str) :
    (c.addLine line).entries.find? key = (c.entries.find? key).or (lineValues key line) := by
  unfold addLine lineValues
  split
  · rename_i k v vs h
    rw [OrdMap.find?_emplace]
    by_cases e : key = k
    · subst e
      cases hf : c.entries.find? key <;> simp
    · simp [e, Ne.symm e]
  · simp

lemma foldl_addLine_find? (c : Config) (lines : List Str) (key : Str) :
    (lines.foldl addLine c).entries.find? key =
      (c.entries.find? key).or (lines.findSome? (lineValues key)) := by
  induction lines generalizing c with
  | nil => simp
  | cons line lines ih =>
    rw [List.foldl_cons, ih, addLine_find?, List.findSome?_cons, Option.or_assoc]
    cases lineValues key line <;> simp

/-- After a fresh configuration has read a file, a key has the values of the first line for it. -/
lemma load_find? (text key : Str) :
    (load {} (some text)).2.entries.find? key = firstValues key text := by
  show ((getlines text).foldl addLine {}).entries.find? key = _
  rw [foldl_addLine_find?]
  rfl

/-- After a fresh configuration has read a file, `get` finds the values of the first line for a key. -/
lemma get_load (text key : Str) (p : Nat) :
    (load {} (some text)).2.get key p = (firstValues key text).bind fun vs => vs[p]? := by
  rw [get, load_find?]
  cases firstValues key text with
  | none => rfl
  | some vs =>
    show (if p ≥ vs.length then none else vs[p]?) = vs[p]?
    by_cases hp : p ≥ vs.length
    · rw [if_pos hp, List.getElem?_eq_none hp]
    · rw [if_neg hp]

/-- A line for a key has at least one value. -/
lemma firstValues_ne_nil {key text : Str} {vs : List Str} (h : firstValues key text = some vs) :
    vs ≠ [] := by
  obtain ⟨line, -, hl⟩ := List.exists_of_findSome?_eq_some h
  unfold lineValues at hl
  split at hl
  · split at hl
    · cases hl
      exact List.cons_ne_nil _ _
    · cases hl
  · cases hl

example : firstValues "a".toList "a\nb 1\na x y\na z".toList = some ["x".toList, "y".toList] := by
  decide

end Config
end SampApi
