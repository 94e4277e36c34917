/-
# Settings

The settings file is a TOML document: named connections, what the wizard does, where the store is,
how much is logged.  Everything in it may be left out but the driver and the connection string of a
connection, and keys that mean nothing here are ignored.

Connection strings and the path of the store may refer to environment variables; they are expanded
when they are used and not before.
-/

import JoinWizard.Connection
import JoinWizard.NameMap
import JoinWizard.Settings.Reference
import JoinWizard.Toml.Document

namespace JoinWizard

/-- A connection in the settings.  Its connection string may hold references. -/
structure ConnectionSettings where
  driver : String
  connectionString : String
  defaultSchema : Option String := none
  deriving DecidableEq, Repr

/-- What the wizard does. -/
structure WizardSettings where
  /-- Whether a star schema is configured. -/
  starModeling : Bool := false
  /-- Whether the configuration stored before is restored. -/
  restoreSaved : Bool := false
  deriving DecidableEq, Repr

/-- Where the store is. -/
structure StoreSettings where
  /-- The path of the store; it may hold references. -/
  path : Option String := none
  deriving DecidableEq, Repr

/-- How much is logged, and in which form. -/
structure LoggingSettings where
  level : String := "warn"
  json : Bool := false
  deriving DecidableEq, Repr

/-- The settings. -/
structure Settings where
  connections : NameMap ConnectionSettings := .empty
  wizard : WizardSettings := {}
  store : StoreSettings := {}
  logging : LoggingSettings := {}
  deriving DecidableEq

/-- Why settings cannot be used. -/
inductive SettingsError where
  /-- There is no settings file at a path. -/
  | notFound (path : String)
  /-- The settings file cannot be read. -/
  | unreadable (fault : FileFault)
  /-- The settings file is no TOML document, or not one of settings. -/
  | malformed
  /-- A text with references cannot be expanded. -/
  | reference (cause : ReferenceError)
  /-- No connection has the given name. -/
  | connectionUnknown (name : String)
  deriving DecidableEq, Repr

namespace SettingsError

/-- The text of an error. -/
def message : SettingsError → String
  | notFound path => "Config file not found: " ++ path
  | unreadable fault => "Failed to read config file: " ++ fault.message
  | malformed => "Failed to parse config file: it is no TOML document of settings"
  | reference cause => cause.message
  | connectionUnknown name => "Connection not found: " ++ name

end SettingsError

namespace Toml

/-- A field that stands for `default` when it is left out. -/
def orDefault {α : Type} (default : α) (read : Toml → Option α) : Option Toml → Option α
  | none => some default
  | some v => read v

/-- A field that may be left out. -/
def optional {α : Type} (read : Toml → Option α) : Option Toml → Option (Option α)
  | none => some none
  | some v => (read v).map some

end Toml

/-- The connection that a value describes. -/
def ConnectionSettings.ofToml? (v : Toml) : Option ConnectionSettings := do
  let field ← v.record? ["driver", "connection_string", "default_schema"]
  return {
    driver := ← (← field "driver").text?
    connectionString := ← (← field "connection_string").text?
    defaultSchema := ← Toml.optional Toml.text? (field "default_schema") }

/-- The wizard's settings that a value describes. -/
def WizardSettings.ofToml? (v : Toml) : Option WizardSettings := do
  let field ← v.record? ["star_modeling", "restore_saved"]
  return {
    starModeling := ← Toml.orDefault false Toml.bool? (field "star_modeling")
    restoreSaved := ← Toml.orDefault false Toml.bool? (field "restore_saved") }

/-- The store's settings that a value describes. -/
def StoreSettings.ofToml? (v : Toml) : Option StoreSettings := do
  let field ← v.record? ["path"]
  return { path := ← Toml.optional Toml.text? (field "path") }

/-- The log's settings that a value describes. -/
def LoggingSettings.ofToml? (v : Toml) : Option LoggingSettings := do
  let field ← v.record? ["level", "json"]
  return {
    level := ← Toml.orDefault "warn" Toml.text? (field "level")
    json := ← Toml.orDefault false Toml.bool? (field "json") }

namespace Settings

/-- The connections that a value describes: a table of them, by name. -/
def connectionsOf? : Toml → Option (NameMap ConnectionSettings)
  | .table _ entries => do
    let connections ← entries.mapM fun (name, v) =>
      return (name, ← ConnectionSettings.ofToml? v)
    return .ofList connections
  | _ => none

/-- The settings of a file's text. -/
def ofText? (text : String) : Option Settings := do
  let root := Toml.table .header (← Toml.parse text)
  let field ← root.record? ["connections", "wizard", "store", "logging"]
  return {
    connections := ← Toml.orDefault .empty connectionsOf? (field "connections")
    wizard := ← Toml.orDefault {} WizardSettings.ofToml? (field "wizard")
    store := ← Toml.orDefault {} StoreSettings.ofToml? (field "store")
    logging := ← Toml.orDefault {} LoggingSettings.ofToml? (field "logging") }

section Machine

open Machine

variable {m : Type → Type} [Monad m] [Machine m]

/-- Reads the settings file at a path. -/
def ofFile (path : String) : ExceptT SettingsError m Settings := do
  unless ← pathExists path do throw (.notFound path)
  match ← readText path with
  | .error fault => throw (.unreadable fault)
  | .ok text =>
    match ofText? text with
    | some settings => return settings
    | none => throw .malformed

/-- The variable that names the settings file. -/
def fileVariable : String := "MULTITABLE_CONFIG"

/-- The paths where a settings file may be, the first one first. -/
def usualPaths : m (List String) := do
  match ← settingsDirectory? with
  | some directory => return ["multitable.toml", Path.join directory "multitable/config.toml"]
  | none => return ["multitable.toml"]

/-- Reads the settings file that a variable names; if it is not set, the first file there is on the
usual paths; if there is none, the settings are those of an empty file. -/
def load : ExceptT SettingsError m Settings := do
  match ← getVariable fileVariable with
  | some path => ofFile path
  | none =>
    match ← (← usualPaths).findM? pathExists with
    | some path => ofFile path
    | none => return {}

/-- Expands the references of a text. -/
def expand (text : String) : ExceptT SettingsError m String :=
  (Reference.expand getVariable text).adapt .reference

/-- The connection of the given name, its connection string expanded. -/
def connection (s : Settings) (name : String) : ExceptT SettingsError m Connection := do
  match s.connections.find? name with
  | none => throw (.connectionUnknown name)
  | some c =>
    return {
      name
      driver := c.driver
      connectionString := ← expand c.connectionString
      defaultSchema := c.defaultSchema }

/-- The path of the store, expanded, if the settings have one. -/
def storePath (s : Settings) : ExceptT SettingsError m (Option String) := do
  match s.store.path with
  | some path => return some (← expand path)
  | none => return none

end Machine

end Settings

end JoinWizard
