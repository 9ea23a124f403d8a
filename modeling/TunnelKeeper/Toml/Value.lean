/-!
The values of a TOML document, and how the tables of a document grow while it is read.

A table remembers how it came about, since that decides what may be added to it later: a header may
define a table once, dotted keys extend only what dotted keys have begun, and an inline table is
complete.
-/

namespace TunnelKeeper.Toml

/-- How a table came about. -/
inductive Origin where
  /-- Its own header, or the document as a whole. -/
  | header
  /-- A header of a table inside it. -/
  | implied
  /-- A dotted key. -/
  | dotted
  /-- Braces. -/
  | inline
  /-- A dotted key inside braces. -/
  | inlineDotted
  deriving DecidableEq, Repr

inductive Value where
  | text (s : String)
  | integer (i : Int)
  | float (x : Float)
  | boolean (b : Bool)
  /-- A date, a time or both. -/
  | moment
  | array (items : List Value)
  | table (origin : Origin) (entries : List (String × Value))
  /-- The tables under one header in double brackets. -/
  | tables (all : List (List (String × Value)))

/-- The keys of a table with their values, in the order of their appearance. -/
abbrev Entries := List (String × Value)

namespace Entries

/-- Another value for a key that is there. -/
def set (key : String) (value : Value) (entries : Entries) : Entries :=
  entries.map fun (k, v) => if k = key then (k, value) else (k, v)

/-- A new key. -/
def add? (key : String) (value : Value) (entries : Entries) : Option Entries :=
  if (entries.lookup key).isSome then none else some (entries ++ [(key, value)])

def remove (key : String) (entries : Entries) : Entries := entries.filter fun (k, _) => k ≠ key

/-- Changes the table at the end of a path of headers. Tables that are missing on the way are
implied; of several tables under one header the last is meant. -/
def underHeaders (change : Entries → Option Entries) : List String → Entries → Option Entries
  | [], entries => change entries
  | key :: path, entries =>
    match entries.lookup key with
    | none => do
      return entries ++ [(key, .table .implied (← underHeaders change path []))]
    | some (.table origin inner) =>
      if origin = .inline ∨ origin = .inlineDotted then none
      else do return set key (.table origin (← underHeaders change path inner)) entries
    | some (.tables all) =>
      match all.getLast? with
      | some last => do
        return set key (.tables (all.dropLast ++ [← underHeaders change path last])) entries
      | none => none
    | some _ => none

/-- Adds a value at the end of a dotted key. `origin` is that of the table at hand, `grown` that
of tables which dotted keys begin here. -/
def addDotted (grown : Origin) (key : String) (value : Value) :
    Origin → List String → Entries → Option Entries
  | _, [], entries => entries.add? key value
  | _, first :: path, entries =>
    match entries.lookup first with
    | none => do
      return entries ++ [(first, .table grown (← addDotted grown key value grown path []))]
    | some (.table inner entriesOf) =>
      if inner = grown ∨ inner = .implied ∧ grown = .dotted ∧ path ≠ [] then do
        return set first (.table inner (← addDotted grown key value inner path entriesOf)) entries
      else none
    | some (.tables all) =>
      match all.getLast? with
      | some last =>
        if grown = .dotted ∧ path ≠ [] then do
          return set first
            (.tables (all.dropLast ++ [← addDotted grown key value .header path last])) entries
        else none
      | none => none
    | some _ => none

end Entries

/-- A document while it is read: the tables before the last header, the place that the header
names, and the table behind it. -/
structure Draft where
  done : Entries := []
  /-- Whether the header is one of several of that name, the path to it and its key. Before the
  first header there is none. -/
  place : Option (Bool × List String × String) := none
  current : Entries := []

namespace Draft

/-- The table behind the last header goes to its place. -/
def close (draft : Draft) : Option Entries :=
  match draft.place with
  | none => some draft.current
  | some (false, path, key) =>
    draft.done.underHeaders (·.add? key (.table .header draft.current)) path
  | some (true, path, key) =>
    draft.done.underHeaders
      (fun entries =>
        match entries.lookup key with
        | none => entries.add? key (.tables [draft.current])
        | some (.tables all) => some (entries.set key (.tables (all ++ [draft.current])))
        | some _ => none)
      path

/-- The entries of a table that a header may still define: one that was implied, or a new one. -/
def definable? (key : String) (entries : Entries) : Option Entries :=
  match entries.lookup key with
  | none => some []
  | some (.table .implied inner) => some inner
  | some _ => none

/-- What a header of the table `key` under a path of headers may start from. -/
def startOf? (key : String) : List String → Entries → Option Entries
  | [], entries => definable? key entries
  | first :: path, entries =>
    match entries.lookup first with
    | none => some []
    | some (.table _ inner) => startOf? key path inner
    | some (.tables all) => all.getLast?.bind (startOf? key path)
    | some _ => none

/-- The header of a table. -/
def openHeader (draft : Draft) (path : List String) (key : String) : Option Draft := do
  let closed ← draft.close
  return {
    done := ← closed.underHeaders (fun entries => some (entries.remove key)) path
    place := some (false, path, key)
    current := ← startOf? key path closed }

/-- The header of one of several tables. -/
def openTables (draft : Draft) (path : List String) (key : String) : Option Draft := do
  return { done := ← draft.close, place := some (true, path, key) }

/-- A key, perhaps a dotted one, and its value. -/
def addPair (draft : Draft) (path : List String) (key : String) (value : Value) :
    Option Draft := do
  return { draft with current := ← draft.current.addDotted .dotted key value .header path }

end Draft

end TunnelKeeper.Toml
