/-
# Saved configurations

A configuration is saved by name: the names of the selected tables, the joins as table and field
names, the name of the fact table.  Restoring it resolves the names against a catalog, and what
the catalog no longer has is dropped and accounted for (`SavedConfig.resolve`).
-/

import JoinWizard.Catalog
import JoinWizard.Join

namespace JoinWizard

/-- A join configuration by name. -/
structure SavedConfig where
  /-- The schema the configuration was made for, if it is bound to one. -/
  schema : Option String := none
  tables : List String := []
  joins : List Join := []
  factTable : Option String := none
  deriving DecidableEq, Repr

/-- What a catalog makes of a saved configuration. -/
structure ResolvedConfig where
  tables : List Table := []
  joins : List Join := []
  factTable : Option String := none
  /-- The table names the catalog does not have. -/
  droppedTables : List String := []
  /-- The joins with an end that no resolved table has. -/
  droppedJoins : List Join := []
  deriving DecidableEq, Repr

namespace Endpoint

/-- Whether one of the tables has the endpoint's name and field. -/
def isFieldOf (e : Endpoint) (tables : List Table) : Bool :=
  tables.any fun t => t.name = e.table && t.hasField e.field

end Endpoint

namespace SavedConfig

/-- Whether the configuration may be restored over tables of the given schema.  One that is bound
to no schema may be restored over any. -/
def appliesTo (c : SavedConfig) (schema : Option String) : Bool :=
  c.schema.isNone || c.schema = schema

/-- Resolves the names of a configuration against a catalog. -/
def resolve (c : SavedConfig) (catalog : Catalog) : ResolvedConfig :=
  let tables := Table.firstOfName (c.tables.filterMap catalog.find?)
  let resolves (j : Join) := j.left.isFieldOf tables && j.right.isFieldOf tables
  { tables
    joins := c.joins.filter resolves
    factTable := c.factTable.filter fun name => tables.any (·.name = name)
    droppedTables := c.tables.filter fun name => !catalog.contains name
    droppedJoins := c.joins.filter fun j => !resolves j }

instance : JsonCodec SavedConfig where
  encode c := .ofFields [
    ("schema", c.schema.map encode),
    ("tables", some (encode c.tables)),
    ("relationships", some (encode c.joins)),
    ("fact_table", c.factTable.map encode)]
  decode v := do
    let field ← v.record? ["schema", "tables", "relationships", "fact_table"]
    return {
      schema := ← JsonCodec.optional (field "schema")
      tables := ← JsonCodec.orDefault [] (field "tables")
      joins := ← JsonCodec.orDefault [] (field "relationships")
      factTable := ← JsonCodec.optional (field "fact_table") }

end SavedConfig

end JoinWizard
