/-! # TOML values and how tables grow

A TOML document builds one table out of headers, dotted keys and inline tables. Every table remembers
how it came to be, because that decides whether it may be extended: a table with a header, or written
inline, is complete; one that a longer header implied may still get its own header; one that dotted keys
made may get further dotted keys.

Numbers with a fraction, booleans and date-times are told apart from the rest, but their values are of
no use here and not kept.
-/

namespace Mcs51.Toml

/-- How a table came to be. -/
inductive Form
  /-- By its own header. -/
  | header
  /-- On the way to a longer header. -/
  | implied
  /-- By a dotted key. -/
  | dotted
  /-- In braces. -/
  | inline
deriving DecidableEq, Repr

inductive Value
  | string (text : String)
  | integer (n : Int)
  | float
  | boolean
  | dateTime
  | array (items : List Value)
  | table (form : Form) (entries : List (String × Value))
  /-- An array of tables written by headers, the newest first; never empty. -/
  | tables (newestFirst : List (List (String × Value)))

/-- The entries of a table, in order of their keys' first appearance. -/
abbrev Entries := List (String × Value)

/-- Set the value of a key. -/
def put (key : String) (value : Value) : Entries → Entries
  | [] => [(key, value)]
  | entry :: rest => if entry.1 = key then (key, value) :: rest else entry :: put key value rest

/-- Change the table that a path of keys leads to. Tables missing on the way are made, and the way leads
through the newest element of an array of tables. A dotted path does not lead through a table with a
header; no path leads through an inline table. -/
def descend (isDotted : Bool) (change : Form → Entries → Option Entries) :
    List String → Form → Entries → Option Entries
  | [], form, entries => change form entries
  | key :: path, _, entries =>
    match entries.lookup key with
    | none => do
      let form : Form := if isDotted then .dotted else .implied
      let inner ← descend isDotted change path form []
      return put key (.table form inner) entries
    | some (.table form inner) =>
      if form = .inline ∨ (isDotted ∧ form = .header) then none
      else do
        let inner ← descend isDotted change path form inner
        return put key (.table form inner) entries
    | some (.tables (newest :: older)) => do
      let newest ← descend isDotted change path .header newest
      return put key (.tables (newest :: older)) entries
    | some _ => none

/-- Set a new key at the end of a dotted path. The table there must have been made by dotted keys, unless
the path is empty. -/
def insertKey (path : List String) (key : String) (value : Value) (entries : Entries) : Option Entries :=
  descend true
    (fun form entries =>
      if (form == .dotted) == path.isEmpty || (entries.lookup key).isSome then none
      else some (entries ++ [(key, value)]))
    path .header entries

def openTable (path : List String) (key : String) (root : Entries) : Option Entries :=
  descend false
    (fun _ entries =>
      match entries.lookup key with
      | none => some (put key (.table .header []) entries)
      | some (.table .implied inner) => some (put key (.table .header inner) entries)
      | some _ => none)
    path .header root

/-- Append an element to the array of tables of a header. -/
def openElement (path : List String) (key : String) (root : Entries) : Option Entries :=
  descend false
    (fun _ entries =>
      match entries.lookup key with
      | none => some (put key (.tables [[]]) entries)
      | some (.tables elements) => some (put key (.tables ([] :: elements)) entries)
      | some _ => none)
    path .header root

/-- Set a new key below the table that the last header opened. -/
def insertBelow (current path : List String) (key : String) (value : Value) (root : Entries) :
    Option Entries :=
  descend false (fun _ entries => insertKey path key value entries) current .header root

end Mcs51.Toml
