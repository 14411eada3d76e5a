/-!
# TOML values

A TOML document is a table of values. A table can come about in four ways
(`TableKind`), and how it came about decides what may be added to it later:

* a header `[a.b]` defines the table it names;
* the tables on the way to it, here `a`, are only implied, and a later header may
  still define them;
* a dotted key `a.b = 1` makes `a` a dotted table, which more dotted keys may
  extend, but no header;
* an inline table is complete as it stands.

`Entries.insert` adds the value of a possibly dotted key, `Entries.define` what a
header defines, and `Entries.append` one more table of an array of tables.
-/

namespace JetPlot

namespace Toml

/-- How a table came about. -/
inductive TableKind
  /-- By a header of its own. -/
  | defined
  /-- On the way to the table of a header. -/
  | implied
  /-- On the way to the value of a dotted key. -/
  | dotted
  /-- As a value in braces. -/
  | inline
  deriving DecidableEq

end Toml

/-- A TOML value. -/
inductive Toml
  /-- A string. -/
  | text (value : String)
  /-- An integer that fits into 64 bits. -/
  | integer (value : Int)
  /-- A floating-point number. -/
  | float (value : Float)
  /-- A truth value. -/
  | boolean (value : Bool)
  /-- A date, a time or both, as it is written. -/
  | dateTime (written : String)
  /-- An array of values. -/
  | array (items : List Toml)
  /-- A table. -/
  | table (kind : Toml.TableKind) (entries : List (String × Toml))
  /-- An array of tables, each with a header of its own. -/
  | tables (elements : List (List (String × Toml)))

namespace Toml

/-- The keys and values of a table. -/
abbrev Entries := List (String × Toml)

namespace Entries

/-- The entries with another value for a key that is there. -/
def replace (entries : Entries) (key : String) (value : Toml) : Entries :=
  entries.map fun entry => if entry.1 = key then (key, value) else entry

/-- The entries with one more at the end. -/
def push (entries : Entries) (key : String) (value : Toml) : Entries := entries ++ [(key, value)]

/-- Changes the last one of some tables. -/
def changeLast (change : Entries → Option Entries) (elements : List Entries) :
    Option (List Entries) :=
  match elements.reverse with
  | [] => none
  | last :: others => (change last).map fun last => (last :: others).reverse

/-- Adds the value of a key behind the given dotted path. Tables are made on the way
    as needed. A defined or inline table must not be extended, and only a dotted
    table may hold the value of a dotted key. -/
def insert (key : String) (value : Toml) : (path : List String) → Entries → Option Entries
  | [], entries => if (entries.lookup key).isSome then none else some (entries.push key value)
  | step :: path, entries =>
    let inner := insert key value path
    match entries.lookup step with
    | none => (inner []).map fun t => entries.push step (table .dotted t)
    | some (table .dotted t) => (inner t).map fun t => entries.replace step (table .dotted t)
    | some (table .implied t) =>
      if path = [] then none
      else (inner t).map fun t => entries.replace step (table .implied t)
    | some (tables elements) =>
      if path = [] then none
      else (changeLast inner elements).map fun ts => entries.replace step (tables ts)
    | some _ => none

/-- Changes the table that a path of a header leads to. Tables are implied on the
    way as needed, and an array of tables stands for its last one. -/
def within (change : Entries → Option Entries) : (path : List String) → Entries → Option Entries
  | [], entries => change entries
  | step :: path, entries =>
    let inner := within change path
    match entries.lookup step with
    | none => (inner []).map fun t => entries.push step (table .implied t)
    | some (table .inline _) => none
    | some (table kind t) => (inner t).map fun t => entries.replace step (table kind t)
    | some (tables elements) =>
      (changeLast inner elements).map fun ts => entries.replace step (tables ts)
    | some _ => none

/-- Defines the table of a header and fills it. Only an implied table may be there
    already. -/
def define (key : String) (fill : Entries → Option Entries) (entries : Entries) :
    Option Entries :=
  match entries.lookup key with
  | none => (fill []).map fun t => entries.push key (table .defined t)
  | some (table .implied t) => (fill t).map fun t => entries.replace key (table .defined t)
  | some _ => none

/-- Appends a table to an array of tables and fills it. -/
def append (key : String) (fill : Entries → Option Entries) (entries : Entries) :
    Option Entries :=
  match entries.lookup key with
  | none => (fill []).map fun t => entries.push key (tables [t])
  | some (tables ts) => (fill []).map fun t => entries.replace key (tables (ts ++ [t]))
  | some _ => none

end Entries

end Toml

end JetPlot
