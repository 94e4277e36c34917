/-
# The program

The machine that the program runs on, and the program: it runs the command line it is given and
leaves its report.  A store is read from its text or from an image, and written as text.
-/

import JoinWizard.Cli.Commands
import JoinWizard.Files.Tree
import JoinWizard.Store.Image
import JoinWizard.Store.Text
import Std.Time.DateTime.Timestamp

namespace JoinWizard

/-- The fault that an error of the system reports. -/
def FileFault.ofError : IO.Error → FileFault
  | .noFileOrDirectory .. => .notFound
  | .alreadyExists .. => .alreadyExists
  | .inappropriateType _ 20 _ => .notDirectory
  | .inappropriateType _ 21 _ => .isDirectory
  | e => .other (toString e)

/-- What an action of the system gives, or the fault it reports. -/
def faultOr {α : Type} (action : IO α) : IO (Except FileFault α) := do
  match ← action.toBaseIO with
  | .ok a => return .ok a
  | .error e => return .error (.ofError e)

/-- Makes the directories above a path. -/
def makeAbove (path : String) : IO (Except FileFault Unit) :=
  match Path.above path with
  | [] => return .ok ()
  | directory :: _ => faultOr (IO.FS.createDirAll directory)

/-- What the store at an address holds; its file is made if it is missing and may be. -/
def openStoreAt (name : String) (address : StoreAddress) : IO (Except StoreError Store) := do
  match address.path?.map Utf8.text? with
  | none => return .ok {}
  | some none => return .error (.cannotOpen name)
  | some (some path) =>
    match ← faultOr (IO.FS.readBinFile path) with
    | .ok bytes =>
      if Image.hasMagic bytes then return Store.ofBytes bytes
      else
        match fileText bytes with
        | .ok text => return Store.ofFileText text
        | .error _ => return .error .notAStore
    | .error .notFound =>
      if address.access ≠ .create then return .error (.cannotOpen name)
      match ← faultOr (IO.FS.writeFile path "") with
      | .ok () => return .ok {}
      | .error _ => return .error (.cannotOpen name)
    | .error _ => return .error (.cannotOpen name)

/-- The system's own files, variables and clock. -/
instance : Machine IO where
  getVariable name := if isVariableName name then IO.getEnv name else return none
  pathExists path := return (← faultOr (IO.FS.realPath path)).isOk
  readText path := return (← faultOr (IO.FS.readBinFile path)).bind fileText
  writeText path text := faultOr (IO.FS.writeFile path text)
  readStore name := do
    match ← makeAbove name with
    | .error fault => return .error (.io fault)
    | .ok () =>
      match StoreAddress.ofText name with
      | .error fault => return .error (.address fault)
      | .ok address => openStoreAt name address
  checkWritable name := do
    match StoreAddress.ofText name with
    | .error fault => return .error (.address fault)
    | .ok address => return if address.isWritable then .ok () else .error .readOnly
  writeStore name store := do
    match StoreAddress.ofText name with
    | .error fault => return .error (.address fault)
    | .ok address =>
      if !address.isWritable then return .error .readOnly
      match address.path?.bind Utf8.text? with
      | none => return .ok ()
      | some path =>
        match ← faultOr (IO.FS.writeFile path store.fileText) with
        | .ok () => return .ok ()
        | .error _ => return .error .noJournal
  closeStore _ := return ()
  now := return Int64.ofInt (← Std.Time.Timestamp.now).toSecondsSinceUnixEpoch.val

end JoinWizard

/-- Runs the command line. -/
def main (args : List String) : IO UInt32 := do
  let report : JoinWizard.Cli.Report ← JoinWizard.Cli.run args
  IO.print report.out
  IO.eprint report.err
  return report.code
