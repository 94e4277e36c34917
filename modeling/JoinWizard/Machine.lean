/-
# The machine

What the library asks of the machine it runs on: environment variables, text files, datasource
stores and the clock.  Everything above is written for any `Machine`; `Workspace` is one that is a
plain value, and the program runs on the real one.

The home directory is what the variable `HOME` says.  The database of users, which could be asked
for it where `HOME` is unset or empty, is left out: there no home directory is known.
-/

import JoinWizard.Files.Path
import JoinWizard.Store

namespace JoinWizard

/-- A machine with an environment, files and stores. -/
class Machine (m : Type → Type) where
  /-- The value of an environment variable, if it is set. -/
  getVariable : String → m (Option String)
  /-- Whether something stands at a path. -/
  pathExists : String → m Bool
  /-- The text of a file. -/
  readText : String → m (Except FileFault String)
  /-- Writes a text into a file, in place of what it held. -/
  writeText : String → String → m (Except FileFault Unit)
  /-- What the store of a name holds; a new one, and the directories above it, are made if need
  be. -/
  readStore : String → m (Except StoreError Store)
  /-- Checks that a store that was opened by a name may be written. -/
  checkWritable : String → m (Except StoreError Unit)
  /-- Writes a store that was opened by a name. -/
  writeStore : String → Store → m (Except StoreError Unit)
  /-- Closes a store that was opened by a name. -/
  closeStore : String → m Unit
  /-- The seconds since the beginning of 1970. -/
  now : m Int64

/-- A computation that may fail runs on the machine below it. -/
instance {ε : Type} {m : Type → Type} [Monad m] [Machine m] : Machine (ExceptT ε m) where
  getVariable name := ExceptT.lift (Machine.getVariable name)
  pathExists path := ExceptT.lift (Machine.pathExists path)
  readText path := ExceptT.lift (Machine.readText path)
  writeText path text := ExceptT.lift (Machine.writeText path text)
  readStore name := ExceptT.lift (Machine.readStore name)
  checkWritable name := ExceptT.lift (Machine.checkWritable name)
  writeStore name store := ExceptT.lift (Machine.writeStore name store)
  closeStore name := ExceptT.lift (Machine.closeStore name)
  now := ExceptT.lift Machine.now

/-- Whether a variable can be asked for by that name: the name is not empty and holds no NUL. -/
def isVariableName (name : String) : Bool := name ≠ "" && !name.toList.contains '\x00'

/-- The text of a file's bytes. -/
def fileText (bytes : ByteArray) : Except FileFault String :=
  match String.fromUTF8? bytes with
  | some text => .ok text
  | none => .error .notText

namespace Machine

variable {m : Type → Type} [Monad m] [Machine m]

/-- The home directory, if `HOME` names one. -/
def home? : m (Option String) := do
  return (← getVariable "HOME").filter (· ≠ "")

/-- The directory for the user's settings files, if one is known. -/
def settingsDirectory? : m (Option String) := do
  match (← getVariable "XDG_CONFIG_HOME").filter fun path => Path.isAbsolute (Utf8.bytes path) with
  | some directory => return some directory
  | none => return (← home?).map (Path.join · ".config")

/-- Opens the store of a name and readies it.  It is closed again if it cannot be readied. -/
def openStore (name : String) : m (Except StoreError Store) := do
  match ← readStore name with
  | .error e => return .error e
  | .ok found =>
    let store := found.prepare
    if store = found then return .ok store
    else
      match ← writeStore name store with
      | .ok () => return .ok store
      | .error e =>
        closeStore name
        return .error e

/-- Takes a datasource out of a store that was opened by a name: whether there was one, and the
store without.  Where there was none the store is not written, but it has to be one that may be. -/
def deleteDatasource (name : String) (store : Store) (datasource : String) :
    m (Except StoreError (Bool × Store)) := do
  let (isFound, rest) := store.delete datasource
  let written ← if isFound then writeStore name rest else checkWritable name
  return written.map fun _ => (isFound, rest)

/-- Where the store is unless the settings say otherwise. -/
def defaultStorePath : m (Except StoreError String) := do
  match ← home? with
  | some home => return .ok (Path.join home ".multitable/datasources.db")
  | none => return .error .noHome

end Machine

end JoinWizard
