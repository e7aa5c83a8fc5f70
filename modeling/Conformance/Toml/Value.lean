/-!
# TOML values

A document holds texts, numbers, moments, flags, lists and tables. A table remembers how it came
about, because that decides whether it may be extended later: one with a header of its own or in
braces is complete, one that only lies on the way to another key is not.
-/

namespace Conformance.Toml

/-- How a table came about. -/
inductive Origin where
  /-- It has a header of its own, or is written in braces. -/
  | defined
  /-- It lies on the path of a header. -/
  | passed
  /-- It lies on the path of a dotted key. -/
  | dotted
  deriving Repr, DecidableEq, Inhabited

/-- A value. -/
inductive Value where
  /-- A text. -/
  | text (value : String)
  /-- A whole number. -/
  | integer (value : Int)
  /-- A number with a fraction or an exponent, as it is written. -/
  | decimal (written : String)
  /-- A date, a time of day or both, as it is written. -/
  | moment (written : String)
  /-- A flag. -/
  | flag (value : Bool)
  /-- A list in brackets. -/
  | list (items : List Value)
  /-- A table in braces. -/
  | braces (origin : Origin) (entries : List (String × Value))
  /-- A table on lines of its own. -/
  | table (origin : Origin) (entries : List (String × Value))
  /-- The tables that share a header in double brackets. -/
  | tables (items : List (List (String × Value)))
  deriving Repr, Inhabited

/-- The entries of a table, in the order in which they were written. -/
abbrev Entries := List (String × Value)

/-- The entries with the value of a key replaced, or added at the end. -/
def Entries.set (key : String) (value : Value) : Entries → Entries
  | [] => [(key, value)]
  | (name, old) :: rest =>
    if name = key then (key, value) :: rest else (name, old) :: set key value rest

/-- A table and how it came about. -/
structure Table where
  /-- How it came about. -/
  origin : Origin
  /-- Its entries. -/
  entries : Entries
  deriving Inhabited

/-- Which tables lie on the path to a key. -/
inductive Path where
  /-- The path of a header. -/
  | header
  /-- The path of a dotted key. -/
  | dotted
  /-- The path of a dotted key in braces. -/
  | braces
  deriving Repr, DecidableEq, Inhabited

namespace Path

/-- How a table comes about that is first met on such a path. -/
def origin : Path → Origin
  | .header => .passed
  | .dotted => .dotted
  | .braces => .dotted

/-- The value of a table that is met on such a path. -/
def value (path : Path) (table : Table) : Value :=
  match path with
  | .braces => .braces table.origin table.entries
  | _ => .table table.origin table.entries

/-- The table behind a value on such a path. A header passes through every table on lines of its
own, a dotted key only through those that have no header or braces of their own. -/
def table? (path : Path) : Value → Option Table
  | .table origin entries =>
    match path, origin with
    | .header, _ => some ⟨origin, entries⟩
    | .dotted, .defined => none
    | .dotted, _ => some ⟨origin, entries⟩
    | .braces, _ => none
  | .braces origin entries =>
    if path = .braces ∧ origin ≠ .defined then some ⟨origin, entries⟩ else none
  | _ => none

end Path

namespace Table

/-- Change the table at the end of a path. Of tables that share a header it is the last one. -/
def modifyAt (path : Path) (change : Table → Option Table) : List String → Table → Option Table
  | [], table => change table
  | key :: keys, table => do
    match table.entries.lookup key with
    | none =>
      let inner ← modifyAt path change keys ⟨path.origin, []⟩
      some { table with entries := table.entries.set key (path.value inner) }
    | some (.tables items) =>
      if path = .braces then none
      else
        let last ← items.getLast?
        let inner ← modifyAt path change keys ⟨.defined, last⟩
        some { table with
          entries := table.entries.set key (.tables (items.dropLast ++ [inner.entries])) }
    | some value =>
      let found ← path.table? value
      let inner ← modifyAt path change keys found
      some { table with entries := table.entries.set key (path.value inner) }

/-- Enter a value under a key that is not there yet. -/
def enter (key : String) (value : Value) (table : Table) : Option Table :=
  if (table.entries.lookup key).isSome then none
  else some { table with entries := table.entries.set key value }

/-- Enter a value under a dotted key. The table that holds it must have been made by a dotted key
itself, unless the key has no dots. -/
def enterAt (path : Path) (keys : List String) (key : String) (value : Value) (table : Table) :
    Option Table :=
  modifyAt path
    (fun inner =>
      if decide (inner.origin = .dotted) = keys.isEmpty then none else inner.enter key value)
    keys table

end Table

end Conformance.Toml
