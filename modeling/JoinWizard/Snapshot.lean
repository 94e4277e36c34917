/-
# Snapshots

What a session hands over when it is committed: the whole configuration with the definitions of
its tables, and the connection they came from.  Saved by name it is a `SavedConfig`.
-/

import JoinWizard.Gates
import JoinWizard.SavedConfig

namespace JoinWizard

/-- A completed join configuration. -/
structure Snapshot where
  /-- The name of the datasource it is committed under. -/
  name : String
  sessionId : String
  /-- The context of the connection the tables came from. -/
  context : String
  /-- The name of that connection. -/
  connection : String
  schema : Option String := none
  mode : Mode
  tables : List Table
  joins : List Join
  factTable : Option String := none
  deriving DecidableEq, Repr

namespace Snapshot

/-- The configuration by name. -/
def toConfig (s : Snapshot) : SavedConfig where
  schema := s.schema
  tables := s.tables.map Table.name
  joins := s.joins
  factTable := s.factTable

instance : JsonCodec Snapshot where
  encode s := .ofFields [
    ("name", some (encode s.name)),
    ("session_id", some (encode s.sessionId)),
    ("context", some (encode s.context)),
    ("connection", some (encode s.connection)),
    ("schema", s.schema.map encode),
    ("mode", some (encode s.mode)),
    ("selected_tables", some (encode s.tables)),
    ("join_relationships", some (encode s.joins)),
    ("fact_table", s.factTable.map encode)]
  decode v := do
    let field ← v.record? ["name", "session_id", "context", "connection", "schema", "mode",
      "selected_tables", "join_relationships", "fact_table"]
    return {
      name := ← JsonCodec.required (field "name")
      sessionId := ← JsonCodec.required (field "session_id")
      context := ← JsonCodec.required (field "context")
      connection := ← JsonCodec.required (field "connection")
      schema := ← JsonCodec.optional (field "schema")
      mode := ← JsonCodec.required (field "mode")
      tables := ← JsonCodec.required (field "selected_tables")
      joins := ← JsonCodec.required (field "join_relationships")
      factTable := ← JsonCodec.optional (field "fact_table") }

end Snapshot

end JoinWizard
