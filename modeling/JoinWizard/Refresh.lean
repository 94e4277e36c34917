/-
# Refreshing schemas and tables

A refresh asks a source for its schemas and for the tables of one of them, and the answers may come
late, out of order or twice.  Each request is a *ticket* stamped with a new generation.  A response
carries the generation of its ticket and is applied only if that generation is still the latest;
any other response is stale and changes nothing.

```text
  idle ──► fetchingSchemas ──► schemasReady ──► fetchingTables ──► tablesReady
                  │                                    │
                  └─────────────► failed ◄─────────────┘
```

Every request is made for the connection of its time, which the ticket carries, and switching the
connection takes a new generation, so that no answer of another source is ever applied.

Generations are natural numbers here, so there is always a new one.  A counter of 64 bits would come
to its end; runs that take 2^64 generations, where it would, are left out.
-/

import JoinWizard.Source.Provider

namespace JoinWizard

/-- How far the refresh of the current connection has come. -/
inductive RefreshState where
  | idle
  | fetchingSchemas
  | schemasReady
  | fetchingTables
  | tablesReady
  | failed
  deriving DecidableEq, Repr

namespace RefreshState

/-- Whether an answer is awaited. -/
def isFetching (s : RefreshState) : Bool := s = .fetchingSchemas || s = .fetchingTables

end RefreshState

/-- What a request asks for. -/
inductive FetchKind where
  | schemas
  | tables
  deriving DecidableEq, Repr

namespace FetchKind

/-- The word for a kind of request. -/
def text : FetchKind → String
  | schemas => "schemas"
  | tables => "tables"

instance : JsonCodec FetchKind where
  encode k := .text k.text
  decode v :=
    match v.case? with
    | some "schemas" => some .schemas
    | some "tables" => some .tables
    | _ => none

end FetchKind

/-- A failed request, as it is shown to the user. -/
structure HostError where
  kind : FetchKind
  /-- What failed, in one line. -/
  message : String
  /-- Why it failed. -/
  detail : String
  deriving DecidableEq, Repr

namespace HostError

/-- The failure of a schema list, for the connection of the given name. -/
def ofSchemas (connection : String) (cause : SourceError) : HostError where
  kind := .schemas
  message := "failed to fetch schemas for connection '" ++ connection ++ "'"
  detail := cause.message

/-- The failure of a table list, for the schema of the given name. -/
def ofTables (schema : String) (cause : SourceError) : HostError where
  kind := .tables
  message := "failed to fetch tables for schema '" ++ schema ++ "'"
  detail := cause.message

/-- The message and its detail. -/
def text (e : HostError) : String := e.message ++ ": " ++ e.detail

instance : JsonCodec HostError where
  encode e := .ofFields [
    ("kind", some (encode e.kind)),
    ("message", some (encode e.message)),
    ("detail", some (encode e.detail))]
  decode v := do
    let field ← v.record? ["kind", "message", "detail"]
    return {
      kind := ← JsonCodec.required (field "kind")
      message := ← JsonCodec.required (field "message")
      detail := ← JsonCodec.required (field "detail") }

end HostError

/-- A request for the schemas of a connection. -/
structure SchemaTicket where
  generation : Nat
  connection : Connection
  deriving DecidableEq, Repr

/-- The answer to a request for schemas. -/
structure SchemaResponse where
  generation : Nat
  /-- The name of the connection that was asked. -/
  connection : String
  result : Except SourceError (List SchemaInfo)

/-- A request for the tables of a schema. -/
structure TableTicket where
  generation : Nat
  schema : String
  connection : Connection
  deriving DecidableEq, Repr

/-- The answer to a request for tables. -/
structure TableResponse where
  generation : Nat
  /-- The name of the schema that was asked for. -/
  schema : String
  result : Except SourceError (List Table)

namespace SchemaTicket

/-- The response to a ticket that carries a given result. -/
def respond (t : SchemaTicket) (result : Except SourceError (List SchemaInfo)) : SchemaResponse :=
  ⟨t.generation, t.connection.name, result⟩

/-- Puts the request to a provider. -/
def run {m : Type → Type} [Monad m] (p : Provider m) (t : SchemaTicket) : m SchemaResponse :=
  t.respond <$> p.schemas t.connection

end SchemaTicket

namespace TableTicket

/-- The response to a ticket that carries a given result. -/
def respond (t : TableTicket) (result : Except SourceError (List Table)) : TableResponse :=
  ⟨t.generation, t.schema, result⟩

/-- Puts the request to a provider. -/
def run {m : Type → Type} [Monad m] (p : Provider m) (t : TableTicket) : m TableResponse :=
  t.respond <$> p.tables t.connection t.schema

end TableTicket

/-- What became of a response. -/
inductive Accepted (α : Type) where
  /-- It was awaited and holds an answer. -/
  | current (value : α)
  /-- It was not awaited any more and changed nothing. -/
  | stale
  /-- It was awaited and reports a failure. -/
  | failed (error : HostError)
  deriving DecidableEq, Repr

/-- The refresh of one connection. -/
structure Refresh where
  connection : Connection
  /-- The generation of the latest ticket or switch. -/
  generation : Nat := 0
  state : RefreshState := .idle
  /-- The schemas of the latest list. -/
  schemas : List SchemaInfo := []
  selectedSchema : Option String := none
  /-- The failure that was reported last and not mended since. -/
  lastError : Option HostError := none
  deriving DecidableEq, Repr

namespace Refresh

/-- Whether a response of the given generation would be applied. -/
def isCurrent (r : Refresh) (generation : Nat) : Bool := generation = r.generation

/-- Whether tables are awaited. -/
def isFetchingTables (r : Refresh) : Bool := r.state = .fetchingTables

/-- Turns to another connection: nothing known of the old one is kept. -/
def setConnection (r : Refresh) (connection : Connection) : Refresh :=
  { connection, generation := r.generation + 1 }

/-- Asks for the schemas, which supersedes any request before. -/
def requestSchemas (r : Refresh) : Refresh × SchemaTicket :=
  ({ r with generation := r.generation + 1, state := .fetchingSchemas },
    ⟨r.generation + 1, r.connection⟩)

/-- The schema to select from a list: the one selected before if the list has it, else the
connection's default if the list has it, else the first flagged as default, else the first. -/
def chooseSchema (r : Refresh) (schemas : List SchemaInfo) : Option String :=
  let known (name : String) : Bool := schemas.any (·.name = name)
  (r.selectedSchema.filter known).or <|
    (r.connection.defaultSchema.filter known).or <|
      ((schemas.find? (·.isDefault)).or schemas.head?).map SchemaInfo.name

/-- Records a failure. -/
def fail (r : Refresh) (error : HostError) : Refresh :=
  { r with state := .failed, lastError := some error }

/-- Takes in a response with schemas. -/
def acceptSchemas (r : Refresh) (response : SchemaResponse) :
    Refresh × Accepted (List SchemaInfo) :=
  if r.isCurrent response.generation then
    match response.result with
    | .ok schemas =>
      ({ r with
          selectedSchema := r.chooseSchema schemas
          schemas
          state := .schemasReady
          lastError := none },
        .current schemas)
    | .error cause =>
      let error := HostError.ofSchemas response.connection cause
      (r.fail error, .failed error)
  else (r, .stale)

/-- Selects a schema and asks for nothing.  Tables that were awaited are of another schema now, so
their request is given up. -/
def selectSchema (r : Refresh) (schema : String) : Refresh :=
  if r.isFetchingTables then
    { r with
      selectedSchema := some schema
      generation := r.generation + 1
      state := if r.schemas.isEmpty then .idle else .schemasReady }
  else { r with selectedSchema := some schema }

/-- Asks for tables, which supersedes any request before.  A schema that is given is selected; else
the selected one is asked for, or the connection's default while none is. -/
def requestTables (r : Refresh) (schema : Option String) : Refresh × TableTicket :=
  let selected := schema.or (r.selectedSchema.or r.connection.defaultSchema)
  ({ r with
      selectedSchema := selected
      generation := r.generation + 1
      state := .fetchingTables },
    ⟨r.generation + 1, selected.getD "", r.connection⟩)

/-- Takes in a response with tables. -/
def acceptTables (r : Refresh) (response : TableResponse) : Refresh × Accepted (List Table) :=
  if r.isCurrent response.generation then
    match response.result with
    | .ok tables => ({ r with state := .tablesReady, lastError := none }, .current tables)
    | .error cause =>
      let error := HostError.ofTables response.schema cause
      (r.fail error, .failed error)
  else (r, .stale)

end Refresh

end JoinWizard
