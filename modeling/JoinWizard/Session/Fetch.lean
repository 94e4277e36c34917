/-
# Fetching in a session

Requests go out as tickets and come back as responses, in any order and at any time; in between
the session stays free for edits.  The host is told when tables begin and cease to be awaited.

The tables of a response that is still awaited become the catalog.  What the user made of the old
catalog is carried over as far as the new one bears it (`Session.installCatalog`); then a pending
configuration that applies to the new catalog is restored over it (`Session.restorePending`).

`fetchSchemas`, `fetchTables` and `refreshAll` put a request to a provider and take in its answer
at once.
-/

import JoinWizard.Session.Basic

namespace JoinWizard
namespace Session

/-- Asks for tables, of a schema that is given or else of the selected one. -/
def requestTablesOf (s : Session) (schema : Option String) : Turn TableTicket :=
  let (refresh, ticket) := s.refresh.requestTables schema
  { s with refresh }.publishIfChanged [.showBusy] ticket

/-- Asks for the tables of the selected schema. -/
def requestTables (s : Session) : Turn TableTicket := s.requestTablesOf none

/-- Asks for the schemas.  Tables that were awaited are given up. -/
def requestSchemas (s : Session) : Turn SchemaTicket :=
  let (refresh, ticket) := s.refresh.requestSchemas
  { s with refresh }.publishIfChanged s.busyEnd ticket

/-- Enters the step going forward; asks for tables if none are there and nothing is awaited. -/
def activateForward (s : Session) : Turn (Option TableTicket) :=
  ({ s with activated := true }.publish [] ()).andThen fun s _ =>
    if s.catalog.isEmpty && !s.refresh.state.isFetching then s.requestTables.map some
    else s.silently none

/-- Enters the step coming back to it. -/
def activateReverse (s : Session) : Turn Unit := { s with activated := true }.publish [] ()

/-- Turns to another connection: catalog, model and pending configuration go. -/
def setConnection (s : Session) (connection : Connection) : Turn Unit :=
  { s with
    refresh := s.refresh.setConnection connection
    catalog := {}
    selection := {}
    joins := {}
    fact := {}
    pending := none }.publish s.busyEnd ()

/-- Selects a schema.  Once the step has been entered its tables are asked for; before that,
tables that were awaited are given up. -/
def selectSchema (s : Session) (schema : String) : Turn (Option TableTicket) :=
  if s.activated then (s.requestTablesOf (some schema)).map some
  else ⟨{ s with refresh := s.refresh.selectSchema schema }, s.busyEnd, none⟩

/-- Takes in a response with schemas. -/
def applySchemas (s : Session) (response : SchemaResponse) : Turn (Accepted (List SchemaInfo)) :=
  let (refresh, accepted) := s.refresh.acceptSchemas response
  match accepted with
  | .stale => s.silently .stale
  | .failed error => { s with refresh }.publish [.error error] (.failed error)
  | .current schemas => { s with refresh }.publish [] (.current schemas)

/-- Puts a new catalog in place of the old one.  Selected tables it lacks are deselected, the
others get its definitions; joins and a fact table that are no longer borne out go. -/
def installCatalog (s : Session) (catalog : Catalog) : Session :=
  let kept := (s.selection.retain fun t => catalog.contains t.name).2
  let selection := kept.redefine catalog.tables
  { s with
    catalog
    selection
    joins := (s.joins.cascadeFields selection).2
    fact := s.fact.revalidate selection }

/-- Restores a configuration over the catalog, in place of the model. -/
def restore (s : Session) (config : SavedConfig) : Session :=
  let resolved := config.resolve s.catalog
  let selection := ({} : Selection).add resolved.tables
  { s with
    selection
    joins := ({} : JoinGraph).addAll resolved.joins selection
    fact := .ofName resolved.factTable selection }

/-- Restores the pending configuration if it applies to the catalog; then none is pending. -/
def restorePending (s : Session) : Session :=
  match s.pending with
  | none => s
  | some config =>
    if config.appliesTo s.catalog.schema then { s.restore config with pending := none } else s

/-- The name a response's tables have for their schema: the one that was asked for, or where none
was named, the first table's. -/
def schemaLabel (asked : String) (tables : List Table) : Option String :=
  if asked = "" then tables.head?.bind Table.schema else some asked

/-- Takes in a response with tables. -/
def applyTables (s : Session) (response : TableResponse) : Turn (Accepted (List Table)) :=
  let (refresh, accepted) := s.refresh.acceptTables response
  match accepted with
  | .stale => s.silently .stale
  | .failed error => { s with refresh }.publish [.hideBusy, .error error] (.failed error)
  | .current tables =>
    let catalog := Catalog.ofTables (schemaLabel response.schema tables) tables
    ({ s with refresh }.installCatalog catalog).restorePending.publish [.hideBusy]
      (.current tables)

section Provider

variable {m : Type → Type} [Monad m]

/-- Fetches the schemas. -/
def fetchSchemas (p : Provider m) (s : Session) : m (Turn (Accepted (List SchemaInfo))) := do
  let asked := s.requestSchemas
  let response ← asked.result.run p
  return asked.andThen fun s _ => s.applySchemas response

/-- Fetches the tables of the selected schema. -/
def fetchTables (p : Provider m) (s : Session) : m (Turn (Accepted (List Table))) := do
  let asked := s.requestTables
  let response ← asked.result.run p
  return asked.andThen fun s _ => s.applyTables response

/-- Fetches the schemas and then, unless that failed, the tables of the selected one. -/
def refreshAll (p : Provider m) (s : Session) : m (Turn (Accepted (List Table))) := do
  let first ← s.fetchSchemas p
  match first.result with
  | .stale => return first.map fun _ => .stale
  | .failed error => return first.map fun _ => .failed error
  | .current _ =>
    let second ← first.session.fetchTables p
    return first.andThen fun _ _ => second

end Provider

end Session
end JoinWizard
