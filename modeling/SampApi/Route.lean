import Mathlib.Data.Char
import Mathlib.Data.List.Lex
import SampApi.Lib.Map
import SampApi.Lib.Regex
import SampApi.Types

/-!
# Routes

Model of `src/api/Route.cpp` and `src/api/Route.hpp`. A `Route` holds the url of the current request;
a `Match` tests url templates against it. A template is turned into a regular expression by replacing
every `:key` by a group that captures one or more characters other than `/`.

The source keeps a pointer to the `Route` in the `Match`; here the route is an argument of `test`.
The cache is looked up and never filled.
-/

namespace SampApi
open Lib

/-- A compiled template. -/
structure Path where
  re : Regex
  keys : List Str

structure Route where
  url : Str := []
  path_to_regex : Regex := {}
  cache : OrdMap Str Path := .empty

/-- The text that replaces the captures of a template. -/
def capture_pattern : Str := "(?:([^\\/]+?))".toList

/-- The pattern of the captures in a template. -/
def path_pattern : Str := ":([^\\/]+)?".toList

structure Match where
  pairs : OrdMap Str Str := .empty
  keys : Nat := 0

/-- `std::regex(s)`, which throws on a malformed pattern. -/
def regex (s : Str) : Except Exn Regex :=
  match Regex.compile s with
  | some re => .ok re
  | none => .error .regex_error

/-- Sets the url of the route and starts a match (source `Route::set`). -/
def Route.set (route : Route) (u : Str) : Except Exn (Route × Match) := do
  let path_to_regex ← regex path_pattern
  return ({ route with url := u, path_to_regex }, {})

/-- The captured text of a key, empty if there is none (source `Match::get`). -/
def Match.get (m : Match) (key : Str) : Str := (m.pairs.find? key).getD []

/-- Compiles a template (in the source a part of `Match::test`). -/
def Route.compile (route : Route) (tmpl : Str) : Except Exn Path := do
  let keys := (Regex.tokens route.path_to_regex tmpl).map fun key => key.drop 1
  let exp := Regex.regexReplace route.path_to_regex capture_pattern tmpl
  let re ← regex ("^".toList ++ exp ++ "$".toList)
  return ⟨re, keys⟩

/-- Stores the submatches under the keys, in order (the last loop of `Match::test`); a submatch
    beyond the keys is an access outside of the vector. -/
def Match.insertPairs : Match → List Str → List Str → Except Exn Match
  | m, _, [] => .ok m
  | m, key :: keys, value :: values =>
    Match.insertPairs ⟨m.pairs.emplace key value, m.keys + 1⟩ keys values
  | _, [], _ :: _ => .error .undefined

/-- Tests a template against the url of the route (source `Match::test`). -/
def Match.test (route : Route) (m : Match) (tmpl : Str) : Except Exn (Bool × Match) := do
  let m := { m with pairs := .empty, keys := 0 }
  let path ←
    match route.cache.find? tmpl with
    | some path => pure path
    | none => route.compile tmpl
  match Regex.regexMatch path.re route.url with
  | none => return (false, m)
  | some sm_values =>
    if sm_values.length < 1 then return (true, m)
    let m ← m.insertPairs path.keys (sm_values.drop 1)
    return (true, m)

end SampApi
