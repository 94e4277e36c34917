/-
# Tables and their fields

A table is known by its name: wherever tables are selected, joined or looked up, two tables of one
name are the same table.  In a list of tables a name therefore means the first table of that name.
-/

import JoinWizard.Json.Basic

namespace JoinWizard

/-- A field of a table, with its type as the source reports it. -/
structure Field where
  name : String
  dataType : Option String := none
  deriving DecidableEq, Repr

namespace Field

instance : JsonCodec Field where
  encode f := .ofFields [("name", some (encode f.name)), ("data_type", f.dataType.map encode)]
  decode v := do
    let field ← v.record? ["name", "data_type"]
    return {
      name := ← JsonCodec.required (field "name")
      dataType := ← JsonCodec.optional (field "data_type") }

end Field

/-- A table, the schema it was found in, and its fields in the order of discovery. -/
structure Table where
  name : String
  schema : Option String := none
  fields : List Field := []
  deriving DecidableEq, Repr

namespace Table

/-- The table with one more field, at the end. -/
def addField (t : Table) (name : String) : Table := { t with fields := t.fields ++ [⟨name, none⟩] }

/-- The first field of the given name. -/
def field? (t : Table) (name : String) : Option Field := t.fields.find? (·.name = name)

/-- Whether the table has a field of the given name. -/
def hasField (t : Table) (name : String) : Bool := (t.field? name).isSome

/-- The name, after the schema and a point where a schema is known. -/
def qualifiedName (t : Table) : String :=
  match t.schema with
  | some schema => schema ++ "." ++ t.name
  | none => t.name

/-- The table, with `schema` for its schema if it knows none of its own. -/
def inSchema (t : Table) (schema : String) : Table :=
  { t with schema := some (t.schema.getD schema) }

/-- The first table of the given name. -/
def named? (name : String) (tables : List Table) : Option Table := tables.find? (·.name = name)

/-- The place of the first table of the given name. -/
def position? (name : String) (tables : List Table) : Option Nat :=
  tables.findIdx? (·.name = name)

/-- The tables whose name no earlier table has. -/
def firstOfName : List Table → List Table
  | [] => []
  | t :: ts => t :: (firstOfName ts).filter (·.name ≠ t.name)

instance : JsonCodec Table where
  encode t := .ofFields [
    ("name", some (encode t.name)),
    ("schema", t.schema.map encode),
    ("fields", some (encode t.fields))]
  decode v := do
    let field ← v.record? ["name", "schema", "fields"]
    return {
      name := ← JsonCodec.required (field "name")
      schema := ← JsonCodec.optional (field "schema")
      fields := ← JsonCodec.orDefault [] (field "fields") }

end Table

end JoinWizard
