/-
# Source documents

A source document lists schemas and their tables.  Two questions are put to it: which schemas
there are, and which tables a schema has.  Asked for the schema with the empty name, it answers
for its default schema: the first one flagged as default, else the first one.
-/

import JoinWizard.Files.Fault
import JoinWizard.Json.Parser
import JoinWizard.Table

namespace JoinWizard

/-- A schema as a source reports it. -/
structure SchemaInfo where
  name : String
  isDefault : Bool := false
  deriving DecidableEq, Repr

namespace SchemaInfo

instance : JsonCodec SchemaInfo where
  encode s := .ofFields [("name", some (encode s.name)), ("is_default", some (encode s.isDefault))]
  decode v := do
    let field ← v.record? ["name", "is_default"]
    return {
      name := ← JsonCodec.required (field "name")
      isDefault := ← JsonCodec.orDefault false (field "is_default") }

end SchemaInfo

/-- A schema with its tables. -/
structure SchemaDocument where
  name : String
  isDefault : Bool := false
  tables : List Table := []
  deriving DecidableEq, Repr

namespace SchemaDocument

/-- The schema without its tables. -/
def info (s : SchemaDocument) : SchemaInfo := ⟨s.name, s.isDefault⟩

instance : JsonCodec SchemaDocument where
  encode s := .ofFields [
    ("name", some (encode s.name)),
    ("is_default", some (encode s.isDefault)),
    ("tables", some (encode s.tables))]
  decode v := do
    let field ← v.record? ["name", "is_default", "tables"]
    return {
      name := ← JsonCodec.required (field "name")
      isDefault := ← JsonCodec.orDefault false (field "is_default")
      tables := ← JsonCodec.orDefault [] (field "tables") }

end SchemaDocument

/-- Why a source gives no answer. -/
inductive SourceError where
  /-- The source could not be read. -/
  | io (fault : FileFault)
  /-- What was read is no source document. -/
  | json (fault : JsonFault)
  /-- The source could not be reached. -/
  | connectionFailed (reason : String)
  /-- The source has no such schema. -/
  | schemaNotFound (schema : String)
  /-- No provider knows the driver. -/
  | driverUnsupported (driver : String)
  deriving DecidableEq, Repr

namespace SourceError

/-- The text of a source's failure. -/
def message : SourceError → String
  | io fault => "failed to read catalog: " ++ fault.message
  | json fault => "failed to parse catalog: " ++ fault.message
  | connectionFailed reason => "connection failed: " ++ reason
  | schemaNotFound schema => "schema not found: " ++ schema
  | driverUnsupported driver => "unsupported driver: " ++ driver

end SourceError

/-- The schemas of a source with their tables. -/
structure SourceDocument where
  schemas : List SchemaDocument := []
  deriving DecidableEq, Repr

namespace SourceDocument

/-- The schemas without their tables, in document order. -/
def infos (d : SourceDocument) : List SchemaInfo := d.schemas.map SchemaDocument.info

/-- The schema that stands for the empty name. -/
def default? (d : SourceDocument) : Option SchemaDocument :=
  (d.schemas.find? (·.isDefault)).or d.schemas.head?

/-- The schema of the given name, or the default one for the empty name. -/
def schema? (d : SourceDocument) (name : String) : Option SchemaDocument :=
  if name = "" then d.default? else d.schemas.find? (·.name = name)

/-- The tables of a schema; those that name no schema of their own are tagged with it. -/
def tablesIn (d : SourceDocument) (name : String) : Except SourceError (List Table) :=
  match d.schema? name with
  | none => .error (.schemaNotFound name)
  | some schema => .ok (schema.tables.map (·.inSchema schema.name))

instance : JsonCodec SourceDocument where
  encode d := .ofFields [("schemas", some (encode d.schemas))]
  decode v := do
    let field ← v.record? ["schemas"]
    return { schemas := ← JsonCodec.orDefault [] (field "schemas") }

end SourceDocument

end JoinWizard
