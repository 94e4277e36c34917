/-
# Catalogs

The tables one fetch discovered, in the order of discovery.  A name that comes again is left out,
so the names of a catalog are distinct.
-/

import JoinWizard.Table

namespace JoinWizard

/-- The tables of one schema, under the name of the schema where it is known. -/
structure Catalog where
  schema : Option String := none
  tables : List Table := []
  deriving DecidableEq, Repr

namespace Catalog

/-- The catalog of a fetched list: of the tables of one name, the first. -/
def ofTables (schema : Option String) (tables : List Table) : Catalog :=
  ⟨schema, Table.firstOfName tables⟩

/-- The table of the given name. -/
def find? (c : Catalog) (name : String) : Option Table := Table.named? name c.tables

/-- Whether a table has the given name. -/
def contains (c : Catalog) (name : String) : Bool := (c.find? name).isSome

/-- The place of a table in the order of discovery. -/
def position? (c : Catalog) (name : String) : Option Nat := Table.position? name c.tables

/-- The number of tables. -/
def size (c : Catalog) : Nat := c.tables.length

/-- Whether there is no table. -/
def isEmpty (c : Catalog) : Bool := c.tables.isEmpty

end Catalog

end JoinWizard
