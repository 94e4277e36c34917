/-
# Providers

A provider answers what a source is asked: the schemas a connection reaches, and the tables of one
of them.  `m` is where its answers come from: a computation that reads files, say, or one that
counts what it was asked.

`FixedSource` is the provider of a document held in memory.  Failures can be laid into it, for the
schema list and for single schemas, and it counts its answers.
-/

import JoinWizard.Connection
import JoinWizard.Source.Document

namespace JoinWizard

/-- Where a connection's schemas and tables are found. -/
structure Provider (m : Type → Type) where
  /-- The schemas the connection reaches. -/
  schemas : Connection → m (Except SourceError (List SchemaInfo))
  /-- The tables of a schema; the empty name asks for the default schema. -/
  tables : Connection → String → m (Except SourceError (List Table))

/-- A source held in memory. -/
structure FixedSource where
  document : SourceDocument := {}
  /-- Why the schema list fails, if it does. -/
  schemaFailure : Option String := none
  /-- Why the tables of a schema fail, by the name they are asked under. -/
  tableFailures : List (String × String) := []
  /-- How often the schema list was asked for. -/
  schemaCalls : Nat := 0
  /-- How often tables were asked for. -/
  tableCalls : Nat := 0
  deriving DecidableEq, Repr

namespace FixedSource

/-- The source with one more schema, at the end. -/
def addSchema (s : FixedSource) (name : String) (tables : List Table) : FixedSource :=
  { s with document := ⟨s.document.schemas ++ [{ name, tables }]⟩ }

/-- What the source says of its schemas. -/
def listSchemas (s : FixedSource) : Except SourceError (List SchemaInfo) :=
  match s.schemaFailure with
  | some reason => .error (.connectionFailed reason)
  | none => .ok s.document.infos

/-- What the source says of the tables of a schema. -/
def listTables (s : FixedSource) (schema : String) : Except SourceError (List Table) :=
  match s.tableFailures.lookup schema with
  | some reason => .error (.connectionFailed reason)
  | none => s.document.tablesIn schema

/-- The source as a provider: any connection reaches it, and each answer is counted. -/
def provider : Provider (StateM FixedSource) where
  schemas _ := fun s => (s.listSchemas, { s with schemaCalls := s.schemaCalls + 1 })
  tables _ schema := fun s => (s.listTables schema, { s with tableCalls := s.tableCalls + 1 })

end FixedSource

end JoinWizard
