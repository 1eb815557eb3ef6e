import DeclAtlas.Text.Basic

/-!
# TOML documents

A document is a table of keys and values.  Tables come about in different ways, and only some of
them may be added to later: a table written in braces never, a table with a header once, a table
that only dotted keys have made by further dotted keys.  These rules are kept with each table.

Numbers and moments in time are told apart from other values but not evaluated.
-/

namespace DeclAtlas

namespace Toml

/-- How a table came about. -/
inductive Origin where
  /-- By a header of its own. -/
  | header
  /-- By the header of a table inside it. -/
  | implied
  /-- By dotted keys. -/
  | dotted
  /-- By a pair of braces. -/
  | inline
  deriving DecidableEq, Repr

end Toml

/-- A value of a document. -/
inductive Toml where
  | string (t : Text)
  | boolean (b : Bool)
  | number
  | moment
  | array (items : List Toml)
  | table (origin : Toml.Origin) (entries : List (Text × Toml))
  /-- Tables with the same header in double brackets, in order. -/
  | tables (items : List (List (Text × Toml)))
  deriving Repr

namespace Toml

/-- The keys and values of a table. -/
abbrev Entries := List (Text × Toml)

/-- Changes the value of a key, which is added at the end if it is missing; the change may be
refused. -/
def alter (key : Text) (change : Option Toml → Option Toml) : Entries → Option Entries
  | [] => (change none).map fun value => [(key, value)]
  | (other, value) :: entries =>
    if other = key then (change (some value)).map fun value => (key, value) :: entries
    else (alter key change entries).map fun entries => (other, value) :: entries

/-- Changes the last of several tables; the change may be refused. -/
def alterLast (change : Entries → Option Entries) : List Entries → Option (List Entries)
  | [] => none
  | [last] => (change last).map fun last => [last]
  | first :: others => (alterLast change others).map fun others => first :: others

/-- Adds a value under a dotted key.  No part of the key may have a value that is not a table made
by dotted keys, and the last part may have none at all.  A table that is only implied by a header
may be passed through but not added to. -/
def insert (value : Toml) : List Text → Entries → Option Entries
  | [], _ => none
  | [key], entries =>
    alter key (fun old => match old with
      | none => some value
      | some _ => none) entries
  | key :: keys, entries =>
    alter key (fun old => match old with
      | none => (insert value keys []).map (.table .dotted)
      | some (.table .dotted inner) => (insert value keys inner).map (.table .dotted)
      | some (.table .implied inner) =>
        if keys.length = 1 then none else (insert value keys inner).map (.table .implied)
      | some (.tables items) =>
        if keys.length = 1 then none else (alterLast (insert value keys) items).map .tables
      | some _ => none) entries

/-- Changes the table that a list of keys leads to.  Tables on the way are made if they are
missing, and of several tables with one header the last is meant. -/
def alterAlong (change : Entries → Option Entries) : List Text → Entries → Option Entries
  | [], entries => change entries
  | key :: keys, entries =>
    alter key (fun old => match old with
      | none => (alterAlong change keys []).map (.table .implied)
      | some (.table .inline _) => none
      | some (.table origin inner) => (alterAlong change keys inner).map (.table origin)
      | some (.tables items) => (alterLast (alterAlong change keys) items).map .tables
      | some _ => none) entries

/-- Opens the table of a header. -/
def openTable (keys : List Text) (key : Text) (entries : Entries) : Option Entries :=
  alterAlong (alter key fun old => match old with
    | none => some (.table .header [])
    | some (.table .implied inner) => some (.table .header inner)
    | some _ => none) keys entries

/-- Opens a further table of a header in double brackets. -/
def openTables (keys : List Text) (key : Text) (entries : Entries) : Option Entries :=
  alterAlong (alter key fun old => match old with
    | none => some (.tables [[]])
    | some (.tables items) => some (.tables (items ++ [[]]))
    | some _ => none) keys entries

end Toml

end DeclAtlas
