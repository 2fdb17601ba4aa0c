import SampApi.Config

/-!
# Printed configurations

A configuration file is printed from entries, a key with its values to a line, with lines between them
that have no separator. `Config::Load` undoes the printing, and the three overloads of `Config::Get`
tell the same about every key (`load_print`).
-/

namespace SampApi
open Lib

namespace Config

/-! ## Out-parameters -/

/-- The value of a key at a position, with what the destination holds afterwards (source `Config::Get`
    into a string). -/
def getInto (c : Config) (index dest : Str) (pos : Nat) : Bool × Str :=
  match c.entries.find? index with
  | some vs => if h : pos ≥ vs.length then (false, dest) else (true, vs.get ⟨pos, Nat.lt_of_not_ge h⟩)
  | none => (false, dest)

/-- What the destination holds after the value of a key at a position, or a default, was read (source
    `Config::Get` with `def`). -/
def getDefInto (c : Config) (index dest dflt : Str) (pos : Nat) : Str :=
  let (ok, dest) := c.getInto index dest pos
  if ok then dest else dflt

/-- With the destination written out, `get` is the same function. -/
lemma getInto_eq (c : Config) (index dest : Str) (pos : Nat) :
    c.getInto index dest pos =
      match c.get index pos with
      | some v => (true, v)
      | none => (false, dest) := by
  rw [getInto, get]
  cases c.entries.find? index with
  | none => rfl
  | some vs =>
    by_cases h : pos ≥ vs.length
    · simp only [h, dif_pos, if_pos]
    · simp only [h, dif_neg, if_neg, not_false_eq_true, List.get_eq_getElem,
        List.getElem?_eq_getElem (Nat.lt_of_not_ge h)]

lemma getDefInto_eq (c : Config) (index dest dflt : Str) (pos : Nat) :
    c.getDefInto index dest dflt pos = c.getDef index dflt pos := by
  rw [getDefInto, getInto_eq, getDef]
  cases c.get index pos with
  | none => rfl
  | some v => rfl

/-! ## Printing -/

/-- The characters that separate the fields of a line. -/
def separator (c : Char) : Bool := c = '\t' || c = ' '

/-- A line of a configuration file: an entry, with at least one value, or anything else. -/
inductive Item where
  | entry (key value : Str) (values : List Str)
  | other (line : Str)

/-- The line is the printed item: the fields of an entry are joined by single tabs or spaces, and have
    none in them. -/
def Prints : Item → Str → Prop
  | .entry key value values, line => Joined separator line (key :: value :: values)
  | .other text, line => line = text ∧ ∀ c ∈ text, separator c = false

/-- The file has the printed items, one to a line; the last line may be without a newline. -/
def Printed (items : List Item) (text : Str) : Prop :=
  ∃ ls, List.Forall₂ Prints items ls ∧ (∀ l ∈ ls, '\n' ∉ l) ∧
    (text = unlines ls ∨ text = ['\n'].intercalate ls)

/-- The values of a key, if the item is an entry for it. -/
def Item.values (key : Str) : Item → Option (List Str)
  | entry k v vs => if k = key then some (v :: vs) else none
  | other _ => none

/-- The values of the first entry for a key. -/
def firstEntry (key : Str) (items : List Item) : Option (List Str) :=
  items.findSome? (Item.values key)

/-- The three overloads of `Get` agree that a key has some values, or none. -/
structure Holds (c : Config) (key : Str) (vs : Option (List Str)) : Prop where
  all : ∀ args, c.getAll key args = (vs.isSome, args ++ vs.getD [])
  into : ∀ dest p, c.getInto key dest p =
    match vs.bind fun vs => vs[p]? with
    | some v => (true, v)
    | none => (false, dest)
  default : ∀ dest dflt p, c.getDefInto key dest dflt p = ((vs.bind fun vs => vs[p]?).getD dflt)

lemma split_eq (line : Str) : split line = line.splitOnP separator := rfl

/-- A printed line is read as the item. -/
lemma Prints.lineValues {item : Item} {line : Str} (h : Prints item line) (key : Str) :
    lineValues key line = item.values key := by
  cases item with
  | entry k v vs =>
    have hsplit : split line = k :: v :: vs := Joined.splitOnP_eq h
    rw [Config.lineValues, hsplit]
    rfl
  | other text =>
    obtain ⟨rfl, hline⟩ := h
    have hsplit : split line = [line] := List.splitOnP_eq_singleton hline
    rw [Config.lineValues, hsplit]
    rfl

/-- Among printed lines, the first one for a key is the line of the first entry for it. -/
lemma findSome?_lineValues {items : List Item} {ls : List Str} (h : List.Forall₂ Prints items ls)
    (key : Str) : ls.findSome? (Config.lineValues key) = firstEntry key items := by
  induction h with
  | nil => rfl
  | cons hl _ ih =>
    rw [firstEntry, List.findSome?_cons, List.findSome?_cons, hl.lineValues key]
    cases Item.values key _ with
    | none => exact ih
    | some vs => rfl

/-- The first line of a key in a printed file is the line of the first entry for it. -/
lemma firstValues_print {items : List Item} {text : Str} (h : Printed items text) (key : Str) :
    firstValues key text = firstEntry key items := by
  obtain ⟨ls, hls, hnl, rfl | rfl⟩ := h
  · rw [firstValues, getlines_unlines hnl, findSome?_lineValues hls]
  · rw [firstValues, getlines_intercalate hnl]
    by_cases hlast : ls.getLast? = some []
    · -- the line that is not read is none for any key
      obtain ⟨init, rfl⟩ : ∃ init, ls = init ++ [[]] := List.getLast?_eq_some_iff.1 hlast
      rw [if_pos hlast, ← findSome?_lineValues hls, List.dropLast_concat, List.findSome?_append]
      exact (Option.or_none ..).symm
    · rw [if_neg hlast, findSome?_lineValues hls]

/-- `Load` undoes printing. After a fresh configuration has read a printed file, the three overloads of
    `Get` agree, for every key, that it has the values of the first entry for it, or none. -/
theorem load_print {items : List Item} {text : Str} (h : Printed items text) :
    (load {} (some text)).1 = true ∧
      ∀ key, Holds (load {} (some text)).2 key (firstEntry key items) := by
  refine ⟨rfl, fun key => ?_⟩
  have hget := fun p => get_load text key p
  have hfind := load_find? text key
  rw [firstValues_print h] at hfind hget
  refine ⟨fun args => ?_, fun dest p => ?_, fun dest dflt p => ?_⟩
  · rw [getAll, hfind]
    cases firstEntry key items with
    | none => rw [Option.getD_none, List.append_nil]; rfl
    | some vs => rfl
  · rw [getInto_eq, hget]
  · rw [getDefInto_eq, getDef, hget]

/-- Two entries for one key and a comment, printed with a space and with tabs. -/
theorem load_print_twice :
    Holds (load {} (some "a 1\t2\n#\na\t3\n".toList)).2 "a".toList
      (some ["1".toList, "2".toList]) := by
  have hprinted : Printed
      [.entry "a".toList "1".toList ["2".toList], .other "#".toList, .entry "a".toList "3".toList []]
      "a 1\t2\n#\na\t3\n".toList := by
    refine ⟨["a 1\t2".toList, "#".toList, "a\t3".toList], ?_, by decide, .inl rfl⟩
    refine .cons ?_ (.cons ⟨rfl, List.forall_mem_singleton.2 rfl⟩ (.cons ?_ .nil))
    · exact splitOnP_eq_iff.1 rfl
    · exact splitOnP_eq_iff.1 rfl
  exact (load_print hprinted).2 "a".toList

end Config
end SampApi
