/-
# Selections

The tables picked for a datasource, in the order they were picked.  A table that is selected
already is not picked again, and keeps the definition it was picked with until it is given a new
one (`Selection.redefine`).
-/

import JoinWizard.Table

namespace JoinWizard

/-- The selected tables, one of a name, in the order of selection. -/
structure Selection where
  tables : List Table := []
  deriving DecidableEq, Repr

namespace Selection

/-- The selected table of the given name. -/
def find? (s : Selection) (name : String) : Option Table := Table.named? name s.tables

/-- The place of a selected table in the order of selection. -/
def position? (s : Selection) (name : String) : Option Nat := Table.position? name s.tables

/-- Whether a table of the given name is selected. -/
def contains (s : Selection) (name : String) : Bool := (s.position? name).isSome

/-- The names of the selected tables. -/
def names (s : Selection) : List String := s.tables.map Table.name

/-- The number of selected tables. -/
def size (s : Selection) : Nat := s.tables.length

/-- Whether no table is selected. -/
def isEmpty (s : Selection) : Bool := s.tables.isEmpty

/-- The tables that `add` appends: those not selected yet, once each, in the given order. -/
def additions (s : Selection) (tables : List Table) : List Table :=
  Table.firstOfName (tables.filter fun t => !s.contains t.name)

/-- Selects the given tables, after those selected already. -/
def add (s : Selection) (tables : List Table) : Selection := ⟨s.tables ++ s.additions tables⟩

/-- Deselects the table of the given name. -/
def erase (s : Selection) (name : String) : Selection := ⟨s.tables.eraseP (·.name = name)⟩

/-- Deselects the named tables: those that were selected, in the order their names are given, and
the selection that is left. -/
def remove (s : Selection) : List String → List Table × Selection
  | [] => ([], s)
  | name :: names =>
    match s.find? name with
    | some t =>
      let (removed, rest) := (s.erase name).remove names
      (t :: removed, rest)
    | none => s.remove names

/-- Deselects the tables that `keep` refuses: those tables, and the selection that is left. -/
def retain (s : Selection) (keep : Table → Bool) : List Table × Selection :=
  (s.tables.filter fun t => !keep t, ⟨s.tables.filter keep⟩)

/-- Gives each selected table the definition that `tables` has for its name, if any. -/
def redefine (s : Selection) (tables : List Table) : Selection :=
  ⟨s.tables.map fun t => (Table.named? t.name tables).getD t⟩

end Selection

end JoinWizard
