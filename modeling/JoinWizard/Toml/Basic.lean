/-
# TOML tables

A TOML document is a table: keys with values, some of them tables again.  A key may be dotted, and
then leads through tables that are made on the way.

Whether a table may be added to later depends on how it came to be:

| standing | came to be by | dotted keys may add | a header may open it |
| --- | --- | --- | --- |
| `inline` | a table written as a value | no | no |
| `dotted` | a dotted key on the way to its value | yes | no |
| `parent` | a header on the way to its table | to tables further down | yes |
| `header` | a header of its own | no | no |

A header may lead through any table but an inline one.  A list of tables is made by headers in
double brackets, one a table; keys and headers that lead through it go to the latest table.
-/

import JoinWizard.Json.Basic

namespace JoinWizard

/-- How a table came to be. -/
inductive Toml.Standing where
  | inline
  | dotted
  | parent
  | header
  deriving DecidableEq, Repr

/-- A TOML value. -/
inductive Toml where
  | text (value : String)
  | bool (value : Bool)
  /-- A whole number; none if it is out of range. -/
  | integer (value : Option Int)
  /-- A number with a fraction or an exponent, or one that is not finite; whether it is in range. -/
  | float (isInRange : Bool)
  | dateTime
  | array (items : List Toml)
  | table (standing : Toml.Standing) (entries : List (String × Toml))
  /-- A list of tables made by headers. -/
  | tables (latest : List (String × Toml)) (earlier : List (List (String × Toml)))
  deriving Inhabited

namespace Toml

/-- How deep arrays and inline tables may be nested, and of how many parts a key may consist. -/
def depthLimit : Nat := 80

/-- The keys of a table with their values. -/
abbrev Entries := List (String × Toml)

/-- The entries with a key's value set, in the key's old position if it has one. -/
def setEntry (key : String) (value : Toml) : Entries → Entries
  | [] => [(key, value)]
  | (k, v) :: rest => if k = key then (k, value) :: rest else (k, v) :: setEntry key value rest

/-- Gives a value to a key, dotted or not.  The key may not have a value yet. -/
def assign (value : Toml) : List String → Entries → Option Entries
  | [], _ => none
  | [key], entries =>
    if (entries.lookup key).isSome then none else some (entries ++ [(key, value)])
  | key :: next :: rest, entries =>
    let inside (t : Entries) : Option Entries := assign value (next :: rest) t
    match entries.lookup key with
    | none => (inside []).map fun t => setEntry key (.table .dotted t) entries
    | some (.table .dotted t) =>
      (inside t).map fun t => setEntry key (.table .dotted t) entries
    | some (.table .parent t) =>
      if rest.isEmpty then none else
        (inside t).map fun t => setEntry key (.table .parent t) entries
    | some (.tables latest earlier) =>
      if rest.isEmpty then none else
        (inside latest).map fun t => setEntry key (.tables t earlier) entries
    | _ => none

/-- Gives values to keys, one after the other. -/
def assignAll (assignments : List (List String × Toml)) (entries : Entries) : Option Entries :=
  assignments.foldlM (fun entries (key, value) => assign value key entries) entries

/-- A header with the assignments under it. -/
structure Section where
  /-- The keys that lead to the table. -/
  path : List String
  /-- Whether the header adds a table to a list. -/
  isElement : Bool
  assignments : List (List String × Toml)

namespace Section

/-- Makes or opens the table that a path leads to, and fills it. -/
def open? (s : Section) : List String → Entries → Option Entries
  | [], _ => none
  | [key], entries =>
    match entries.lookup key, s.isElement with
    | none, false =>
      (assignAll s.assignments []).map fun t => setEntry key (.table .header t) entries
    | some (.table .parent t), false =>
      (assignAll s.assignments t).map fun t => setEntry key (.table .header t) entries
    | none, true =>
      (assignAll s.assignments []).map fun t => setEntry key (.tables t []) entries
    | some (.tables latest earlier), true =>
      (assignAll s.assignments []).map fun t =>
        setEntry key (.tables t (latest :: earlier)) entries
    | _, _ => none
  | key :: rest, entries =>
    match entries.lookup key with
    | none => (s.open? rest []).map fun t => setEntry key (.table .parent t) entries
    | some (.table standing t) =>
      if standing = .inline then none else
        (s.open? rest t).map fun t => setEntry key (.table standing t) entries
    | some (.tables latest earlier) =>
      (s.open? rest latest).map fun t => setEntry key (.tables t earlier) entries
    | _ => none

end Section

/-- The table of a document: the assignments before the first header, then the sections. -/
def ofSections (assignments : List (List String × Toml)) (sections : List Section) :
    Option Entries := do
  sections.foldlM (fun entries s => s.open? s.path entries) (← assignAll assignments [])

mutual

/-- Whether all numbers in a value are in range. -/
def isInRange : Toml → Bool
  | .integer value => value.isSome
  | .float isInRange => isInRange
  | .array items => areItemsInRange items
  | .table _ entries => areEntriesInRange entries
  | .tables latest earlier => areEntriesInRange latest && areTablesInRange earlier
  | _ => true

/-- Whether all numbers in the items of an array are in range. -/
def areItemsInRange : List Toml → Bool
  | [] => true
  | item :: items => item.isInRange && areItemsInRange items

/-- Whether all numbers in the values of a table are in range. -/
def areEntriesInRange : List (String × Toml) → Bool
  | [] => true
  | (_, value) :: entries => value.isInRange && areEntriesInRange entries

/-- Whether all numbers in a list of tables are in range. -/
def areTablesInRange : List (List (String × Toml)) → Bool
  | [] => true
  | entries :: rest => areEntriesInRange entries && areTablesInRange rest

end

/-- Reads a record with the fields `names`: the result gives the value of a field, if there is one.
A record is written as a table or as an array of its fields in the order of their declaration.
Other keys of the table are ignored if the numbers there are in range; further items of the array
are not looked at.  A date or time is a record without any of its fields. -/
def record? (names : List String) : Toml → Option (String → Option Toml)
  | .table _ entries =>
    if entries.all fun (name, value) => names.contains name || value.isInRange then
      some fun name => entries.lookup name
    else none
  | .array items => some fun name => (names.zip items).lookup name
  | .tables latest earlier =>
    some fun name => (names.zip ((latest :: earlier).reverse.map (.table .header))).lookup name
  | .dateTime => some fun _ => none
  | _ => none

/-- The text that a value is. -/
def text? : Toml → Option String
  | .text s => some s
  | _ => none

/-- The truth value that a value is. -/
def bool? : Toml → Option Bool
  | .bool b => some b
  | _ => none

end Toml

end JoinWizard
