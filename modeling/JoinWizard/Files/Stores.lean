/-
# Stores in file trees

A store is opened by its address in a tree: the directories above it are made, and its file too if
it is missing and may be made.  The file of a new store is empty until the store is first written,
and a file of a single byte counts as empty.

The path of a store is brought to a place on its own terms: a step up takes back the step before it
on the path, so that what was left again need not be there.

Other files go with the one of a store and stand beside it, under a longer name:

| name ends in | is | when a store is opened |
| --- | --- | --- |
| `-journal` | what a write has yet to change | one that was left is taken back, and removed |
| `-wal` | a log of what was written | the store is read and written through it |
| `-shm` | the index of a log | made for a log |
| `.lock` | a lock, in some file systems | a store under lock is not opened |

An empty file beside a store is none, and neither is a journal that begins with a zero byte.  A
store that is empty has no journal and no log: they are removed.  A store writes through its
journal, or through its log if it has one; some stores get a log whenever they are opened.  The log
and its index are removed when the store is closed.  None of this is done to a store that is
immutable, and much of it cannot be done to one that is only read.
-/

import JoinWizard.Files.Tree
import JoinWizard.Store.Image

namespace JoinWizard
namespace FileTree

/-- The bytes of a place's path. -/
def pathSize (place : List FileName) : Nat :=
  place.foldl (fun size name => size + name.length + 1) 0

/-- The length from which the path of a store is too long on the way, in bytes. -/
def storePathLimit : Nat := 512

/-- What the name of a store's journal has behind the store's own. -/
def journalSuffix : String := "-journal"

/-- What the name of a store's log has behind the store's own. -/
def logSuffix : String := "-wal"

/-- What the name of the index of a store's log has behind the store's own. -/
def indexSuffix : String := "-shm"

/-- What the name of a store's lock has behind the store's own. -/
def lockSuffix : String := ".lock"

/-- The last name of a place with something behind it. -/
def nameBeside (place : List FileName) (suffix : String) : FileName :=
  place.getLast?.getD [] ++ Utf8.bytes suffix

/-- The place beside another, with something behind its name. -/
def beside (place : List FileName) (suffix : String) : List FileName :=
  place.dropLast ++ [nameBeside place suffix]

/-- Whether a file of a store can be where steps lead from a place.  Nothing is below a file, but
what is missing may be anything. -/
def admitsStore (t : FileTree) (place : List FileName) : List FileName → Bool
  | [] => pathSize place + journalSuffix.utf8ByteSize ≤ storePathLimit
  | step :: rest =>
    if Path.isStill step then t.admitsStore place rest
    else if Path.isUp step then t.admitsStore place.dropLast rest
    else
      let mayBeDirectory := t.isDirectory place || (t.at? place).isNone
      let next := place ++ [step]
      mayBeDirectory && step.length < nameLimit && pathSize next < storePathLimit &&
        t.admitsStore next rest

/-- The place of the file with a store's path. -/
def storePlace (workDir : List FileName) (path : List UInt8) : List FileName :=
  Path.follow (startOf workDir path) (Path.steps path)

/-- Whether the file of a store is empty. -/
def isBlank (t : FileTree) (place : List FileName) : Bool :=
  match t.at? place with
  | some (.file bytes) => bytes.size ≤ 1
  | _ => false

/-- Whether something stands at a place that is more than an empty file. -/
def isFilled (t : FileTree) (place : List FileName) : Bool :=
  match t.at? place with
  | some (.file bytes) => !bytes.isEmpty
  | other => other.isSome

/-- Whether the store at a place is always written through a log. -/
def isLogged (t : FileTree) (place : List FileName) : Bool :=
  match t.at? place with
  | some (.store _ isLogged) => isLogged
  | some (.file bytes) => (Image.ofBytes? bytes).any Image.isLogged
  | _ => false

/-- Whether an open store at a place has a log. -/
def hasLog (t : FileTree) (place : List FileName) : Bool :=
  let log := beside place logSuffix
  t.isFilled log || (t.isLogged place && (t.at? log).isSome)

/-- Whether a journal can be put beside the file at a place. -/
def admitsJournal (t : FileTree) (place : List FileName) : Bool :=
  (nameBeside place journalSuffix).length < nameLimit &&
    !t.isDirectory (beside place journalSuffix)

/-- Whether the journal at a place has something to take back. -/
def isHot (t : FileTree) (place : List FileName) : Bool :=
  match t.at? place with
  | some (.file bytes) => bytes.data.toList.head?.any (· ≠ 0)
  | other => other.isSome

/-- How the index of a log is kept. -/
inductive LogIndex where
  /-- In no file. -/
  | unkept
  /-- In a file that is written. -/
  | written
  /-- In a file, or what stands in its place, that is only read. -/
  | fixed
  deriving DecidableEq, Repr

/-- How the index of a store's log is kept. -/
def logIndex (t : FileTree) (address : StoreAddress) (place : List FileName) : LogIndex :=
  if address.fileSystem = .exclusive ∧ address.access ≠ .readOnly then .unkept
  else if address.isIndexFixed || t.isDirectory (beside place indexSuffix) then .fixed
  else .written

/-- Whether an index that is only read may stand for the log at a place: the log is too short to
say anything, or it bears no mark. -/
def isUnmarked (t : FileTree) (place : List FileName) : Bool :=
  match t.at? place with
  | some (.file bytes) =>
    bytes.size < 32 || ((bytes.data.toList.drop 16).take 8).all (· = 0)
  | _ => false

/-- The bytes that a log begins with.  They are no text. -/
def logBytes : ByteArray := ⟨#[0x37, 0x7f, 0x06, 0x82]⟩

/-- The bytes that the index of a log begins with.  They are no text. -/
def indexBytes : ByteArray := ⟨#[0x18, 0xe2, 0x2d, 0x00]⟩

/-- A step on the way to an open store.  What it did to the tree stays when it fails. -/
abbrev StoreStep := ExceptT StoreError (StateM FileTree)

/-- Finds the file of a store, or makes it. -/
def findStore (workDir : List FileName) (name : String) (address : StoreAddress)
    (path : List UInt8) : StoreStep Unit := do
  let t ← get
  let place := storePlace workDir path
  if !t.admitsStore (startOf workDir path) (Path.steps path) then throw (.cannotOpen name)
  else if address.rightsOf?.any fun rights => !(t.look workDir rights).isOk then throw .unreadable
  else
    match t.at? place with
    | some (.directory _) =>
      throw (if address.access = .readOnly then .unreadable else .cannotOpen name)
    | some _ => return ()
    | none =>
      if address.access = .create ∧ t.isDirectory place.dropLast then
        set (t.put (.file .empty) place)
      else throw (.cannotOpen name)

/-- Checks that a store is not under lock, where a directory is the lock. -/
def checkLock (address : StoreAddress) (place : List FileName) : StoreStep Unit := do
  let t ← get
  if address.fileSystem = .lockDirectory ∧ !address.isUnlocked then
    if (nameBeside place lockSuffix).length ≥ nameLimit then throw .unreadable
    else if (t.at? (beside place lockSuffix)).isSome then throw .locked

/-- Takes back what a journal was left for, and removes it.  Where a directory is the lock, the
store's own makes it look as if the journal were in use. -/
def clearJournal (address : StoreAddress) (place : List FileName) : StoreStep Unit := do
  let t ← get
  let journal := beside place journalSuffix
  let isLocked := !address.isUnlocked || (t.at? (beside place lockSuffix)).isSome
  let isInUse := address.fileSystem = .lockDirectory && isLocked
  let mayRemove := address.access ≠ .readOnly || address.isUnlocked ||
    address.fileSystem = .unlocked
  if isInUse || !t.isFilled journal then return ()
  else if t.isBlank place then
    if mayRemove && !t.isDirectory journal then set (t.erase journal)
  else if t.isDirectory journal then throw .unreadable
  else if !t.isHot journal then return ()
  else if address.access = .readOnly then throw .readOnly
  else set (t.erase journal)

/-- Opens the index of a store's log. -/
def openIndex (address : StoreAddress) (place : List FileName) : StoreStep Unit := do
  let t ← get
  let index := beside place indexSuffix
  match t.logIndex address place with
  | .unkept => return ()
  | .written => set (t.put (.file indexBytes) index)
  | .fixed =>
    if (t.at? index).isNone then throw .noJournal
    else if !t.isUnmarked (beside place logSuffix) then throw .logMismatch

/-- Opens the log of a store, if there is one or has to be. -/
def openLog (address : StoreAddress) (place : List FileName) : StoreStep Unit := do
  let t ← get
  let log := beside place logSuffix
  let admitsLogs := !address.isUnlocked &&
    (address.fileSystem = .locked || address.fileSystem = .exclusive)
  if !t.isFilled log && !t.isLogged place then return ()
  else if t.isBlank place then
    if t.isDirectory log then throw .unreadable else set (t.erase log)
  else if t.isDirectory log || !admitsLogs then throw .noJournal
  else
    if !t.isFilled log then set (t.put (.file .empty) log)
    openIndex address place

/-- The tree after an open store was closed: its log is gone, if it could be written. -/
def closeLog (t : FileTree) (address : StoreAddress) (place : List FileName) : FileTree :=
  if !address.isWritable || !t.hasLog place then t
  else
    match t.logIndex address place with
    | .unkept => t.erase (beside place logSuffix)
    | .written => (t.erase (beside place logSuffix)).erase (beside place indexSuffix)
    | .fixed => t

/-- The store whose file is at a place. -/
def storeAt (t : FileTree) (place : List FileName) : Except StoreError Store :=
  match t.at? place with
  | some (.store s _) => .ok s
  | some (.file bytes) => Store.ofBytes bytes
  | _ => .error .unreadable

/-- What the store at an address holds. -/
def openStoreAt (workDir : List FileName) (name : String) (address : StoreAddress) :
    StoreStep Store := do
  match address.path? with
  | none => return {}
  | some path =>
    let place := storePlace workDir path
    findStore workDir name address path
    if !address.isImmutable then
      checkLock address place
      clearJournal address place
      openLog address place
    let t ← get
    match t.storeAt place with
    | .ok s => return s
    | .error e =>
      set (t.closeLog address place)
      throw e

/-- What the store of a name holds, and the tree after it was opened. -/
def readStore (t : FileTree) (workDir : List FileName) (name : String) :
    Except StoreError Store × FileTree :=
  match t.ensureDirectories workDir (Path.above name) with
  | (.error fault, t) => (.error (.io fault), t)
  | (.ok (), t) =>
    match StoreAddress.ofText name with
    | .error fault => (.error (.address fault), t)
    | .ok address => openStoreAt workDir name address t

/-- Whether an open store may be written: not if it is only read, or the index of its log is. -/
def mayWrite (t : FileTree) (workDir : List FileName) (address : StoreAddress) : Bool :=
  address.isWritable &&
    !address.path?.any fun path =>
      let place := storePlace workDir path
      t.hasLog place && t.logIndex address place = .fixed

/-- Checks that a store may be written that was opened by a name. -/
def checkWritable (t : FileTree) (workDir : List FileName) (name : String) :
    Except StoreError Unit :=
  match StoreAddress.ofText name with
  | .error fault => .error (.address fault)
  | .ok address => if t.mayWrite workDir address then .ok () else .error .readOnly

/-- The tree after a store was written that was opened by a name. -/
def writeStore (t : FileTree) (workDir : List FileName) (name : String) (s : Store) :
    Except StoreError FileTree :=
  match StoreAddress.ofText name with
  | .error fault => .error (.address fault)
  | .ok address =>
    if !t.mayWrite workDir address then .error .readOnly
    else
      match address.path? with
      | none => .ok t
      | some path =>
        let place := storePlace workDir path
        let written := FileTree.store s (t.isLogged place)
        if t.hasLog place then
          .ok ((t.put (.file logBytes) (beside place logSuffix)).put written place)
        else if t.admitsJournal place then
          .ok ((t.erase (beside place journalSuffix)).put written place)
        else .error .noJournal

/-- The tree after a store was closed that was opened by a name. -/
def closeStore (t : FileTree) (workDir : List FileName) (name : String) : FileTree :=
  match StoreAddress.ofText name with
  | .error _ => t
  | .ok address =>
    match address.path? with
    | none => t
    | some path => t.closeLog address (storePlace workDir path)

end FileTree
end JoinWizard
