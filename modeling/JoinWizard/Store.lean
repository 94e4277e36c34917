/-
# The datasource store

A store keeps one row per datasource name, and a version.  A row holds its configuration and its
properties as JSON text, which is read when the datasource is loaded and not before: a row may be
there and still not be readable.

A configuration is handed back only in the context it was saved for (`Store.loadConfig`).

A store of another version is emptied when it is opened (`Store.prepare`).
-/

import JoinWizard.Files.Fault
import JoinWizard.Json.Parser
import JoinWizard.Json.Printer
import JoinWizard.Store.Address
import JoinWizard.Store.Record

namespace JoinWizard

/-- Why a store does not do what it is asked. -/
inductive StoreError where
  /-- A row's texts cannot be read. -/
  | json (fault : JsonFault)
  /-- The place of the store cannot be used. -/
  | io (fault : FileFault)
  /-- The name of the store is none. -/
  | address (fault : AddressFault)
  /-- There is no file of that name, and none can be made. -/
  | cannotOpen (name : String)
  /-- The file of that name, or one beside it, cannot be used. -/
  | unreadable
  /-- The file of that name is no store. -/
  | notAStore
  /-- The file of that name is a store in which not all is as it should be. -/
  | damaged
  /-- The store was opened only to be read. -/
  | readOnly
  /-- No journal, or no log, can be put beside the store. -/
  | noJournal
  /-- Another program seems to use the store. -/
  | locked
  /-- The log of the store does not go with its index. -/
  | logMismatch
  /-- No home directory is known to put the store into. -/
  | noHome
  deriving DecidableEq, Repr

namespace StoreError

/-- The text of a store's failure. -/
def message : StoreError → String
  | json fault => "JSON serialization error: " ++ fault.message
  | io fault => "IO error: " ++ fault.message
  | address fault => "SQLite error: " ++ fault.message
  | cannotOpen name => "SQLite error: unable to open database file: " ++ name
  | unreadable => "SQLite error: disk I/O error"
  | notAStore => "SQLite error: file is not a database"
  | damaged => "SQLite error: database disk image is malformed"
  | readOnly => "SQLite error: attempt to write a readonly database"
  | noJournal => "SQLite error: unable to open database file"
  | locked => "SQLite error: database is locked"
  | logMismatch => "SQLite error: locking protocol"
  | noHome => "Failed to determine store directory"

end StoreError

/-- What a store keeps of a datasource. -/
structure StoreRow where
  context : String
  /-- The configuration's JSON text. -/
  config : String
  /-- The properties' JSON text. -/
  properties : String
  updatedAt : Int64
  deriving DecidableEq

namespace StoreRow

/-- The row of a record. -/
def ofRecord (r : DatasourceRecord) : StoreRow where
  context := r.context
  config := toJsonText r.config
  properties := toJsonText r.properties
  updatedAt := r.updatedAt

/-- The record of a row, if both texts can be read. -/
def toRecord (row : StoreRow) (name : String) : Except JsonFault DatasourceRecord := do
  let config ← ofJsonText row.config
  let properties ← ofJsonText row.properties
  return { name, context := row.context, config, properties, updatedAt := row.updatedAt }

end StoreRow

/-- A datasource store: its version, as a text, and its rows. -/
structure Store where
  version : Option String := none
  rows : NameMap StoreRow := .empty
  deriving DecidableEq, Inhabited

namespace Store

/-- The version of the rows that this library writes. -/
def currentVersion : Int := 1

/-- A whole number in decimal digits, with or without a sign. -/
def signedDecimal? (s : String) : Option Int :=
  match s.toList with
  | '-' :: digits => (digits? digits).map fun n => -(n : Int)
  | '+' :: digits => (digits? digits).map Int.ofNat
  | digits => (digits? digits).map Int.ofNat
where
  /-- The number of a nonempty list of decimal digits. -/
  digits? (digits : List Char) : Option Nat :=
    if digits.isEmpty || !digits.all Char.isDigit then none else some (Json.decimal digits)

/-- The version a text denotes: a whole number of 32 bits, and zero where it is none. -/
def versionOf (s : String) : Int :=
  match signedDecimal? s with
  | some n => if Int32.minValue.toInt ≤ n ∧ n ≤ Int32.maxValue.toInt then n else 0
  | none => 0

/-- Readies a store that was just opened: a new one gets the current version, one of another
version loses its rows. -/
def prepare (s : Store) : Store :=
  let stamp := some (toString currentVersion)
  match s.version with
  | none => { s with version := stamp }
  | some v => if versionOf v = currentVersion then s else { version := stamp }

/-- A new store, ready for use. -/
def fresh : Store := prepare {}

/-- Writes a datasource, in place of one of its name. -/
def save (s : Store) (r : DatasourceRecord) : Store :=
  { s with rows := s.rows.insert r.name (.ofRecord r) }

/-- Reads the datasource of the given name, if there is one. -/
def load (s : Store) (name : String) : Except StoreError (Option DatasourceRecord) :=
  match s.rows.find? name with
  | none => .ok none
  | some row =>
    match row.toRecord name with
    | .ok r => .ok (some r)
    | .error fault => .error (.json fault)

/-- Reads the configuration of the given name, if it was saved in the given context. -/
def loadConfig (s : Store) (name context : String) : Except StoreError (Option SavedConfig) :=
  (s.load name).map fun record? =>
    (record?.filter fun r => r.context = context).map DatasourceRecord.config

/-- Takes out the datasource of the given name: whether there was one, and the store without. -/
def delete (s : Store) (name : String) : Bool × Store :=
  (s.rows.contains name, { s with rows := s.rows.erase name })

/-- The names of the datasources, in increasing order. -/
def names (s : Store) : List String := s.rows.names

/-- Says who made the datasource of the given name. -/
def origin (s : Store) (name : String) : Origin :=
  match s.load name with
  | .ok (some r) => if r.isWizardGenerated then .wizardGenerated else .metadata
  | .ok none => .absent
  | .error e => .unreadable e.message

/-- Writes the record of a committed snapshot. -/
def commit (s : Store) (snapshot : Snapshot) (now : Int64) : Store :=
  s.save (.ofSnapshot snapshot now)

end Store

end JoinWizard
