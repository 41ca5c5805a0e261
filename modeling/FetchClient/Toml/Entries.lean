/-!
# Entries of TOML tables

- `Item`: what a key may stand for;
- `Entries.change?`: changes the table that a path leads to;
- `Entries.insert?`, `Entries.openTable?`, `Entries.openElement?`: what the three kinds of lines in a
  document do to its entries. Each of them fails where something would be defined twice.
-/

namespace FetchClient.Toml

/-- How a table came to be. -/
inductive Origin where
  /-- By a line with its name in brackets. -/
  | stated
  /-- Only because a table inside of it was stated. -/
  | implied
  /-- By a key with dots. -/
  | dotted
  deriving DecidableEq, Repr

/-- What a key stands for. -/
inductive Item where
  | text (text : String)
  | flag (value : Bool)
  /-- A number, a moment, a list or a table in braces. It cannot be added to later, and nobody asks
  what it is. -/
  | closed
  | table (origin : Origin) (entries : List (String × Item))
  /-- A list of tables. Only the last one can be added to. -/
  | elements (last : List (String × Item))
  deriving Repr

abbrev Entries := List (String × Item)

namespace Entries

/-- The entries with another item for a key, which comes last when it is new. -/
def set (key : String) (item : Item) : Entries → Entries
  | [] => [(key, item)]
  | (k, old) :: rest => if k = key then (key, item) :: rest else (k, old) :: set key item rest

/-- Changes the entries of the table that a path leads to. Tables on the way that are missing are
made. A path of a key with dots must not lead through a table that was stated. -/
def change? (dotted : Bool) (change : Origin → Entries → Option Entries) :
    Origin → List String → Entries → Option Entries
  | origin, [], entries => change origin entries
  | _, key :: path, entries =>
    match entries.lookup key with
    | none => do
      let origin := if dotted then Origin.dotted else .implied
      return entries.set key (.table origin (← change? dotted change origin path []))
    | some (.table origin inner) =>
      if dotted && origin = .stated then none
      else do return entries.set key (.table origin (← change? dotted change origin path inner))
    | some (.elements last) => do
      return entries.set key (.elements (← change? dotted change .stated path last))
    | some _ => none

/-- Adds an entry with a new key. -/
def add? (key : String) (item : Item) (entries : Entries) : Option Entries :=
  if (entries.lookup key).isSome then none else some (entries ++ [(key, item)])

/-- Adds an item under a key with dots. The table that the item comes into has to be one that keys
with dots made. -/
def insert? (entries : Entries) (path : List String) (key : String) (item : Item) :
    Option Entries :=
  change? true
    (fun origin inner => if !path.isEmpty && origin != .dotted then none else inner.add? key item)
    .stated path entries

/-- States a table, which must not have been there, or only been implied. -/
def openTable? (entries : Entries) (path : List String) (key : String) : Option Entries :=
  change? false
    (fun _ inner =>
      match inner.lookup key with
      | none => some (inner.set key (.table .stated []))
      | some (.table .implied found) => some (inner.set key (.table .stated found))
      | some _ => none)
    .stated path entries

/-- Adds a table to a list of tables, which begins with it if it was not there. -/
def openElement? (entries : Entries) (path : List String) (key : String) : Option Entries :=
  change? false
    (fun _ inner =>
      match inner.lookup key with
      | none | some (.elements _) => some (inner.set key (.elements []))
      | some _ => none)
    .stated path entries

/-- Adds an item under a key with dots to the table that a path leads to. -/
def insertIn? (entries : Entries) (table path : List String) (key : String) (item : Item) :
    Option Entries :=
  change? false (fun _ inner => inner.insert? path key item) .stated table entries

end Entries

end FetchClient.Toml
