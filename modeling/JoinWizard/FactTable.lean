/-
# The fact table and its picker

The fact table of a star schema is kept by name and always set to a selected table; when that
table is deselected it is cleared by `FactTable.revalidate`.

A picker shows the choices as rows: row 0 stands for no fact table, row `i + 1` for the table at
place `i` of the selection.  The shift by one is made here and nowhere else.
-/

import JoinWizard.Selection

namespace JoinWizard

/-- The rows of a fact table picker over a selection. -/
structure FactChoices where
  selection : Selection

namespace FactChoices

/-- The row that stands for no fact table. -/
def noneIndex : Int32 := 0

/-- The number of rows. -/
def size (c : FactChoices) : Nat := c.selection.size + 1

/-- What the rows show: no table, then the names of the selected tables. -/
def rows (c : FactChoices) : List (Option String) := none :: c.selection.names.map some

/-- The table in a row.  The first row, a negative index and one past the end have none. -/
def tableAt? (c : FactChoices) (index : Int32) : Option Table :=
  if index ≤ noneIndex then none else c.selection.tables[index.toInt.toNat - 1]?

/-- The row of a selected table. -/
def indexOf? (c : FactChoices) (table : String) : Option Int32 :=
  (c.selection.position? table).map fun i => Int32.ofNat i + 1

/-- The row to show for a fact table that may be unset or no longer selected. -/
def indexFor (c : FactChoices) (table : Option String) : Int32 :=
  (table.bind c.indexOf?).getD noneIndex

end FactChoices

/-- The name of the fact table, if one is chosen. -/
structure FactTable where
  name : Option String := none
  deriving DecidableEq, Repr

namespace FactTable

/-- The choice of a table by name; a name that is not selected chooses none. -/
def ofName (name : Option String) (s : Selection) : FactTable := ⟨name.filter s.contains⟩

/-- The choice of a picker's row. -/
def ofIndex (index : Int32) (s : Selection) : FactTable :=
  ofName (((FactChoices.mk s).tableAt? index).map Table.name) s

/-- Whether a choice was made. -/
def isSet (f : FactTable) : Bool := f.name.isSome

/-- Whether the chosen table is no longer selected. -/
def isDangling (f : FactTable) (s : Selection) : Bool := f.name.any fun name => !s.contains name

/-- Takes back a choice that is no longer selected. -/
def revalidate (f : FactTable) (s : Selection) : FactTable := if f.isDangling s then {} else f

/-- The chosen table, as the selection defines it. -/
def table? (f : FactTable) (s : Selection) : Option Table := f.name.bind s.find?

end FactTable

end JoinWizard
