/-
# Commands

Running a command line on a machine gives a `Report`: the exit code, what goes to the standard
output, what goes to the standard error.

| code | means |
| --- | --- |
| 0 | the command did what it was asked |
| 1 | it failed, and the standard error says why |
| 2 | the arguments are no command line |

`inspect` plays a whole wizard step: it fetches the schemas and the tables of one, restores a
configuration if there is one, shows the outcome and commits it if it is asked to.  The store is
opened before anything is fetched, and closed when all is done.
-/

import JoinWizard.Cli.Arguments
import JoinWizard.SavedConfig.File
import JoinWizard.Session.Commit
import JoinWizard.Session.Fetch
import JoinWizard.Settings
import JoinWizard.Source.CatalogFile

namespace JoinWizard
namespace Cli

/-- What a run leaves behind. -/
structure Report where
  code : UInt32 := 0
  /-- The standard output. -/
  out : String := ""
  /-- The standard error. -/
  err : String := ""
  deriving DecidableEq, Repr

namespace Report

/-- A failure, told in a line. -/
def failure (line : String) : Report := { code := 1, err := line ++ "\n" }

end Report

/-- A list of lines as text. -/
def unlines (lines : List String) : String := String.join (lines.map (· ++ "\n"))

/-- The lines of a list of tables or joins. -/
def itemLines (items : List String) : List String := items.map ("  - " ++ ·)

/-- The lines of a list, or one that says it is empty. -/
def itemLinesOrNone (items : List String) : List String :=
  if items.isEmpty then ["  (none)"] else itemLines items

/-- The line of a schema. -/
def schemaLine (s : SchemaInfo) : String := s.name ++ if s.isDefault then " (default)" else ""

/-- The line of a field. -/
def fieldLine (f : Field) : String :=
  match f.dataType with
  | some dataType => "  - " ++ f.name ++ " (" ++ dataType ++ ")"
  | none => "  - " ++ f.name

/-- The lines of a table: its name and its fields. -/
def tableLines (t : Table) : List String := t.qualifiedName :: t.fields.map fieldLine

/-- The lines that show a session. -/
def sessionLines (s : Session) : List String :=
  let available := s.available.map Table.name
  [ "Connection: " ++ s.connection.name,
    "Schema: " ++ s.catalog.schema.getD "-",
    "Mode: " ++ s.mode.text,
    "",
    "Selected tables:" ] ++ itemLinesOrNone s.selection.names ++
  (if available.isEmpty then [] else "Available tables:" :: itemLines available) ++
  "Joins:" :: itemLinesOrNone (s.joins.joins.map Join.text) ++
  [ "Fact table: " ++ (s.factTable?.map Table.name).getD "(none)",
    "",
    "valid: " ++ toString s.published.valid,
    "finishable: " ++ toString s.published.finishable ]

/-- What notices look like on the standard error: failures are shown, the rest is not. -/
def noticeText (notices : List Notice) : String :=
  unlines <| notices.flatMap fun
    | .error e => ["Error: " ++ e.message, "  " ++ e.detail]
    | _ => []

/-- The line of a commit. -/
def commitLine (s : Snapshot) : String :=
  "Committed '" ++ s.name ++ "' (" ++ toString s.tables.length ++ " tables)"

/-- The name and version of the program. -/
def versionLine : String := "multitable 0.1.0"

/-- How the program is used. -/
def usage : String := unlines [
  "Usage: multitable [--settings <file>] <command>",
  "",
  "Commands:",
  "  schemas -c <connection>                 list the schemas of a connection",
  "  tables  -c <connection> [-s <schema>]   list the tables of a schema",
  "  inspect -c <connection> [-s <schema>] [--config <file>] [--star|--flat] [--save <name>]",
  "                                          configure a datasource and show the outcome",
  "  origin  <name>                          say who made a stored datasource" ]

variable {m : Type → Type} [Monad m] [Machine m]

/-- Goes on with a result, or ends with a report of what went wrong. -/
def orReport {ε α : Type} (describe : ε → String) (x : ExceptT ε m α) : ExceptT Report m α :=
  x.adapt fun e => Report.failure (describe e)

/-- The connection of the given name. -/
def connectionOf (settings : Settings) (name : String) : ExceptT Report m Connection :=
  orReport (fun e => "Error: " ++ e.message) (settings.connection name)

/-- The path of the store, by the settings or else the usual one. -/
def storePath (settings : Settings) : ExceptT Report m String := do
  let opening (text : String) := "Error opening store: " ++ text
  match ← orReport (fun e => opening e.message) settings.storePath with
  | some path => return path
  | none => orReport (fun e => opening e.message) (ExceptT.mk Machine.defaultStorePath)

/-- Opens the store at a path, goes on with it, and closes it whatever comes of that. -/
def withStore {α : Type} (path : String) (use : Store → ExceptT Report m α) :
    ExceptT Report m α := do
  let store ← orReport (fun e => "Error opening store: " ++ e.message)
    (ExceptT.mk (Machine.openStore path))
  let result ← ExceptT.lift (use store).run
  Machine.closeStore path
  ExceptT.mk (pure result)

/-- Lists the schemas of a connection. -/
def listSchemas (settings : Settings) (name : String) : ExceptT Report m Report := do
  let connection ← connectionOf settings name
  let schemas ← orReport (fun e => "Error listing schemas: " ++ e.message)
    (ExceptT.mk (CatalogFile.provider.schemas connection))
  return { out := unlines (schemas.map schemaLine) }

/-- Lists the tables of a schema, or of the connection's default one. -/
def listTables (settings : Settings) (name : String) (schema : Option String) :
    ExceptT Report m Report := do
  let connection ← connectionOf settings name
  let schema := (schema.or connection.defaultSchema).getD ""
  let tables ← orReport (fun e => "Error listing tables: " ++ e.message)
    (ExceptT.mk (CatalogFile.provider.tables connection schema))
  return { out := unlines (tables.flatMap tableLines) }

/-- The configuration that a session starts with: that of a file, or else, if the settings say so,
the one stored before. -/
def savedConfig (settings : Settings) (options : InspectOptions) (connection : Connection)
    (store : Option Store) : ExceptT Report m (Option SavedConfig) := do
  match options.config, store, options.save with
  | some path, _, _ =>
    let config ← orReport (fun e => "Error reading '" ++ path ++ "': " ++ e.message)
      (SavedConfig.loadFile path)
    return some config
  | none, some store, some name =>
    if settings.wizard.restoreSaved then
      orReport (fun e => "Error reading datasource '" ++ name ++ "': " ++ e.message)
        (ExceptT.mk (pure (store.loadConfig name connection.context)))
    else return none
  | none, _, _ => return none

/-- Goes on with a turn's session unless the turn took in a failure. -/
def unlessFailed {α : Type} (t : Turn (Accepted α)) : ExceptT Report m Session :=
  match t.result with
  | .failed _ => throw { code := 1, err := noticeText t.notices }
  | _ => return t.session

/-- Plays a session up to the tables of a schema: the one that is given, or else the one that is
selected when the schemas have come. -/
def playSession (session : Session) (schema : Option String) : ExceptT Report m Session := do
  let session ← unlessFailed (← session.fetchSchemas CatalogFile.provider)
  let session :=
    match schema with
    | some name => (session.selectSchema name).session
    | none => session
  let entered := session.activateForward
  match entered.result with
  | some ticket =>
    let response ← ticket.run CatalogFile.provider
    unlessFailed (entered.session.applyTables response)
  | none => return entered.session

/-- Configures a datasource of a connection and shows the outcome.  It is committed to a store of a
given path, if there is one, under a given name. -/
def inspectWith (settings : Settings) (options : InspectOptions) (connection : Connection)
    (place : Option (String × String × Store)) : ExceptT Report m Report := do
  let saved ← savedConfig settings options connection (place.map fun (_, _, store) => store)
  let mode := options.mode.getD (.ofStar settings.wizard.starModeling)
  let session ← playSession (.start "" connection mode saved) options.schema
  let shown := unlines (sessionLines session)
  match place with
  | none => return { out := shown }
  | some (name, path, store) =>
    let failure (e : CommitError) : Report :=
      { Report.failure ("Error committing '" ++ name ++ "': " ++ e.message) with out := shown }
    match session.commit (.store store) (← Machine.now) name with
    | .ok (snapshot, .store store) =>
      match ← Machine.writeStore path store with
      | .ok () => return { out := shown ++ unlines ["", commitLine snapshot] }
      | .error e => return failure (.store e)
    | .ok (snapshot, _) => return { out := shown ++ unlines ["", commitLine snapshot] }
    | .error e => return failure e

/-- Configures a datasource, shows the outcome and commits it if a name to do so is given. -/
def inspect (settings : Settings) (options : InspectOptions) : ExceptT Report m Report := do
  let connection ← connectionOf settings options.connection
  match options.save with
  | none => inspectWith settings options connection none
  | some name =>
    let path ← storePath settings
    withStore path fun store => inspectWith settings options connection (some (name, path, store))

/-- Says who made a stored datasource. -/
def showOrigin (settings : Settings) (name : String) : ExceptT Report m Report := do
  withStore (← storePath settings) fun store =>
    return { out := unlines [(store.origin name).text] }

/-- Runs a command under the settings that go with it. -/
def runCommand (invocation : Invocation) : ExceptT Report m Report := do
  let settings ← orReport (fun e => "Error loading settings: " ++ e.message) <|
    match invocation.settings with
    | some path => Settings.ofFile path
    | none => Settings.load
  match invocation.command with
  | .schemas connection => listSchemas settings connection
  | .tables connection schema => listTables settings connection schema
  | .inspect options => inspect settings options
  | .origin name => showOrigin settings name

/-- Runs a command line. -/
def run (args : List String) : m Report := do
  match parse args with
  | .error .misuse => return { code := 2, err := usage }
  | .error .help => return { out := usage }
  | .error .version => return { out := unlines [versionLine] }
  | .ok invocation =>
    match ← (runCommand invocation).run with
    | .ok report => return report
    | .error report => return report

end Cli
end JoinWizard
