import FilterQuery.Dictionary

/-!
# TOML values

The tree that settings files decode to. A table remembers how it came about, because that decides
what may still be added to it: a table is opened once by a header, keys with dots extend only tables
that such keys made, and a table between braces is closed. An array that headers open, one table at
a time, is a value of its own, and whatever follows leads into its last table.
-/

namespace FilterQuery

/-- How a table came about. -/
inductive Toml.Origin where
  /-- A header names it. -/
  | header
  /-- A header names a table inside it. -/
  | path
  /-- A key with dots leads through it. -/
  | dotted
  /-- It stands between braces. -/
  | braces
  deriving DecidableEq, Repr

/-- A TOML value. -/
inductive Toml where
  /-- A text. -/
  | string (s : String)
  /-- A whole number. -/
  | integer (n : Int)
  /-- A floating point number, as it is written. -/
  | float (s : String)
  /-- `true` or `false`. -/
  | boolean (b : Bool)
  /-- A date, a time of day or both, as it is written. -/
  | moment (s : String)
  /-- The items of an array between brackets. -/
  | array (items : List Toml)
  /-- The entries of a table, ascending by key. -/
  | table (origin : Toml.Origin) (entries : List (String × Toml))
  /-- The tables that headers opened one by one: those before the last, the latest first, and the
  last. -/
  | tables (before : List (List (String × Toml))) (last : List (String × Toml))

namespace Toml

/-- The entries of a table. -/
abbrev Entries := List (String × Toml)

/-- Entries after a change at the last key of a header. The keys before it lead through tables, into
the last one of an array that headers opened, and make the tables that are missing. -/
def atHeader? (change : String → Entries → Option Entries) : List String → Entries → Option Entries
  | [], _ => none
  | [key], entries => change key entries
  | key :: rest, entries =>
    match Dictionary.find? key entries with
    | none =>
      (atHeader? change rest []).map fun inner => Dictionary.insert key (.table .path inner) entries
    | some (.table .braces _) => none
    | some (.table origin inner) =>
      (atHeader? change rest inner).map fun inner =>
        Dictionary.insert key (.table origin inner) entries
    | some (.tables before last) =>
      (atHeader? change rest last).map fun last =>
        Dictionary.insert key (.tables before last) entries
    | some _ => none

/-- Entries with a table opened under a key, unless the key is taken by more than a way to other
tables. -/
def openTable? (key : String) (entries : Entries) : Option Entries :=
  match Dictionary.find? key entries with
  | none => some (Dictionary.insert key (.table .header []) entries)
  | some (.table .path inner) => some (Dictionary.insert key (.table .header inner) entries)
  | some _ => none

/-- Entries with one more table in the array under a key, unless something else has the key. -/
def appendTable? (key : String) (entries : Entries) : Option Entries :=
  match Dictionary.find? key entries with
  | none => some (Dictionary.insert key (.tables [] []) entries)
  | some (.tables before last) => some (Dictionary.insert key (.tables (last :: before) []) entries)
  | some _ => none

/-- Entries with a value under a key with dots, unless the key is taken or leads through a table
that it must not extend. -/
def assign? (value : Toml) : List String → Entries → Option Entries
  | [], _ => none
  | [key], entries =>
    match Dictionary.find? key entries with
    | none => some (Dictionary.insert key value entries)
    | some _ => none
  | key :: rest, entries =>
    match Dictionary.find? key entries with
    | none =>
      (assign? value rest []).map fun inner => Dictionary.insert key (.table .dotted inner) entries
    | some (.table .dotted inner) =>
      (assign? value rest inner).map fun inner =>
        Dictionary.insert key (.table .dotted inner) entries
    | some (.table .path inner) =>
      if rest.length = 1 then none
      else (assign? value rest inner).map fun inner =>
        Dictionary.insert key (.table .path inner) entries
    | some (.tables before last) =>
      if rest.length = 1 then none
      else (assign? value rest last).map fun last =>
        Dictionary.insert key (.tables before last) entries
    | some _ => none

/-- Entries after a change in the table that a header opened. -/
def inside? (change : Entries → Option Entries) : List String → Entries → Option Entries
  | [], entries => change entries
  | key :: rest, entries =>
    match Dictionary.find? key entries with
    | some (.table origin inner) =>
      (inside? change rest inner).map fun inner =>
        Dictionary.insert key (.table origin inner) entries
    | some (.tables before last) =>
      (inside? change rest last).map fun last =>
        Dictionary.insert key (.tables before last) entries
    | _ => none

/-- A statement of a document. -/
inductive Statement where
  /-- A header opens a table. -/
  | header (path : List String)
  /-- A header opens one more table of an array. -/
  | item (path : List String)
  /-- A key gets a value in the table opened last. -/
  | entry (path : List String) (value : Toml)

/-- The entries that statements amount to, from the table opened last and the entries so far. -/
def run? : List String → Entries → List Statement → Option Entries
  | _, entries, [] => some entries
  | _, entries, .header path :: rest =>
    (atHeader? openTable? path entries).bind fun entries => run? path entries rest
  | _, entries, .item path :: rest =>
    (atHeader? appendTable? path entries).bind fun entries => run? path entries rest
  | current, entries, .entry path value :: rest =>
    (inside? (assign? value path) current entries).bind fun entries => run? current entries rest

end Toml

end FilterQuery
