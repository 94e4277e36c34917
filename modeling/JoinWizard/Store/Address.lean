/-
# Store addresses

A datasource store is named by the path of the file that keeps it, or by an address.  An address
begins with `file:`; a path follows, and perhaps a question mark and options, each a name and a
value with an equals sign between them and an ampersand before the next.

An authority may stand in front of the path, after two slashes and up to the next one; it has to be
empty or `localhost`.  What follows a `#` does not count.  A percent sign and two hexadecimal digits
stand for a byte; a zero byte ends the part it stands in.  So a path need not be a text.

| option | values | says |
| --- | --- | --- |
| `mode` | `ro`, `rw`, `rwc`, `memory` | how the store is opened (`StoreAccess`) |
| `cache` | `shared`, `private` | nothing here |
| `vfs` | `unix` and others | how its file is locked (`FileSystem`) |
| `immutable` | a truth value | that the store is not written to, and what is beside it is left |
| `nolock` | a truth value | that the store is not locked |
| `readonly_shm` | a truth value | that the index of a log is not written |
| `modeof` | a path | which file the rights of a new store are taken from |

The last `vfs` counts, and of the options that follow it in the table the first.  Other options do
not count, and neither do those without a name.  An empty path and the path `:memory:` name a store
that nothing keeps.
-/

import JoinWizard.Json.Parser
import JoinWizard.Text.Utf8

namespace JoinWizard

/-- Why a text names no store. -/
inductive AddressFault where
  /-- The authority of an address is another machine. -/
  | authority (text : String)
  /-- There is no such `mode`. -/
  | access (text : String)
  /-- The `mode` asks for more than the one before it. -/
  | accessRaised (text : String)
  /-- There is no such `cache`. -/
  | cache (text : String)
  /-- There is no such `vfs`. -/
  | fileSystem (text : String)
  /-- The text holds a NUL, behind so many bytes. -/
  | nul (position : Nat)
  /-- The path of the address is too long for its file system. -/
  | tooLong (address : String)
  deriving DecidableEq, Repr

namespace AddressFault

/-- The text of a fault. -/
def message : AddressFault → String
  | authority text => "invalid uri authority: " ++ text
  | access text => "no such access mode: " ++ text
  | accessRaised text => "access mode not allowed: " ++ text
  | cache text => "no such cache mode: " ++ text
  | fileSystem text => "no such vfs: " ++ text
  | nul position => "nul byte found in provided data at position: " ++ toString position
  | tooLong address => "unable to open database file: " ++ address

end AddressFault

/-- How a store is opened. -/
inductive StoreAccess where
  /-- To be read. -/
  | readOnly
  /-- To be read and written. -/
  | readWrite
  /-- To be read and written, and made if it is missing. -/
  | create
  /-- To be read and written, and kept nowhere. -/
  | memory
  deriving DecidableEq, Repr

namespace StoreAccess

/-- The access of a word. -/
def ofWord? (word : List UInt8) : Option StoreAccess :=
  [(Utf8.bytes "ro", readOnly), (Utf8.bytes "rw", readWrite), (Utf8.bytes "rwc", create),
    (Utf8.bytes "memory", memory)].lookup word

/-- Whether an access asks for no more than the other. -/
def isWithin : StoreAccess → StoreAccess → Bool
  | memory, _ => true
  | _, memory => true
  | _, create => true
  | create, _ => false
  | readWrite, readOnly => false
  | _, _ => true

end StoreAccess

/-- How the files of stores are locked, and whether there are any. -/
inductive FileSystem where
  /-- The file itself is locked. -/
  | locked
  /-- Nothing is locked. -/
  | unlocked
  /-- A directory beside the file is the lock. -/
  | lockDirectory
  /-- The file itself is locked, and for one program alone. -/
  | exclusive
  /-- There are no files: nothing keeps a store. -/
  | memory
  deriving DecidableEq, Repr

namespace FileSystem

/-- The file system of a word. -/
def ofWord? (word : List UInt8) : Option FileSystem :=
  [(Utf8.bytes "unix", locked), (Utf8.bytes "unix-none", unlocked),
    (Utf8.bytes "unix-dotfile", lockDirectory), (Utf8.bytes "unix-excl", exclusive),
    (Utf8.bytes "memdb", memory)].lookup word

end FileSystem

/-- Where a store is, and how it is opened. -/
structure StoreAddress where
  /-- The path of the file that keeps the store, unless nothing keeps it. -/
  path? : Option (List UInt8)
  access : StoreAccess := .create
  fileSystem : FileSystem := .locked
  isImmutable : Bool := false
  /-- Whether the store is used without a lock. -/
  isUnlocked : Bool := false
  /-- Whether the index of the store's log is only read. -/
  isIndexFixed : Bool := false
  /-- The path of the file that a new store takes its rights from. -/
  rightsOf? : Option (List UInt8) := none
  deriving DecidableEq

namespace StoreAddress

/-- Whether the store may be written to. -/
def isWritable (a : StoreAddress) : Bool := a.access ≠ .readOnly && !a.isImmutable

/-- Whether a path names a store that nothing keeps. -/
def isUnkept (path : List UInt8) : Bool := path = [] || path = Utf8.bytes ":memory:"

/-- The size up to which a path may be, in a file system without files, in bytes. -/
def unkeptPathLimit : Nat := 1016

/-- The bytes of a part of an address. -/
def unescape : List Char → List UInt8
  | '%' :: a :: b :: rest =>
    match Json.hexValue? a, Json.hexValue? b with
    | some high, some low => UInt8.ofNat (16 * high + low) :: unescape rest
    | _, _ => String.utf8EncodeChar '%' ++ unescape (a :: b :: rest)
  | c :: rest => String.utf8EncodeChar c ++ unescape rest
  | [] => []

/-- The bytes of a part of an address, up to a zero byte. -/
def partBytes (part : List Char) : List UInt8 := (unescape part).takeWhile (· ≠ 0)

/-- The options of an address, names with values. -/
def options (cs : List Char) : List (List UInt8 × List UInt8) :=
  (cs.splitOn '&').filterMap fun option =>
    let name := partBytes (option.takeWhile (· ≠ '='))
    if name.isEmpty then none else some (name, partBytes ((option.dropWhile (· ≠ '=')).drop 1))

/-- The number that a text begins with, decimal or, after `0x`, hexadecimal. -/
def leadingNumber? (cs : List Char) : Option Nat :=
  let decimal := cs.takeWhile Char.isDigit
  let hexadecimal :=
    if cs.take 2 = ['0', 'x'] ∨ cs.take 2 = ['0', 'X'] then
      (cs.drop 2).takeWhile fun c => (Json.hexValue? c).isSome
    else []
  if !hexadecimal.isEmpty then
    some (hexadecimal.foldl (fun n c => 16 * n + (Json.hexValue? c).getD 0) 0)
  else if decimal.isEmpty then none
  else some (Json.decimal decimal)

/-- Whether the value of an option means yes: a word, or a number.  A number of more than 31 bits
means no, and so does one whose last eight bits are zero. -/
def isYes (value : List UInt8) : Bool :=
  let text := Utf8.text value
  match leadingNumber? text.toList with
  | some n => n < 0x80000000 && n % 256 ≠ 0
  | none => ["on", "yes", "true"].contains text.toLower

/-- The access after an option. -/
def withOption (access : StoreAccess) (option : List UInt8 × List UInt8) :
    Except AddressFault StoreAccess :=
  let (name, value) := option
  if name = Utf8.bytes "mode" then
    match StoreAccess.ofWord? value with
    | none => .error (.access (Utf8.text value))
    | some new => if new.isWithin access then .ok new else .error (.accessRaised (Utf8.text value))
  else if name = Utf8.bytes "cache" then
    if value = Utf8.bytes "shared" ∨ value = Utf8.bytes "private" then .ok access
    else .error (.cache (Utf8.text value))
  else .ok access

/-- The file system that the options name. -/
def fileSystemOf (options : List (List UInt8 × List UInt8)) : Except AddressFault FileSystem :=
  match options.reverse.lookup (Utf8.bytes "vfs") with
  | none => .ok .locked
  | some value =>
    match FileSystem.ofWord? value with
    | some fileSystem => .ok fileSystem
    | none => .error (.fileSystem (Utf8.text value))

/-- What follows the authority of an address. -/
def afterAuthority : List Char → Except AddressFault (List Char)
  | '/' :: '/' :: rest =>
    let authority := String.ofList (rest.takeWhile (· ≠ '/'))
    if authority = "" ∨ authority = "localhost" then .ok (rest.dropWhile (· ≠ '/'))
    else .error (.authority authority)
  | cs => .ok cs

/-- Reads what follows `file:` in an address. -/
def ofScheme (address : String) (cs : List Char) : Except AddressFault StoreAddress := do
  let cs := (← afterAuthority cs).takeWhile (· ≠ '#')
  let path := partBytes (cs.takeWhile (· ≠ '?'))
  let options := options ((cs.dropWhile (· ≠ '?')).drop 1)
  let access ← options.foldlM withOption .create
  let fileSystem ← fileSystemOf options
  let isSet (name : String) : Bool := (options.lookup (Utf8.bytes name)).any isYes
  let isUnkept := isUnkept path || access = .memory
  if isUnkept then return { path? := none, access }
  else if fileSystem = .memory ∧ path.length > unkeptPathLimit then throw (.tooLong address)
  else
    return {
      path? := if fileSystem = .memory then none else some path
      access
      fileSystem
      isImmutable := isSet "immutable"
      isUnlocked := isSet "nolock"
      isIndexFixed := isSet "readonly_shm"
      rightsOf? := options.lookup (Utf8.bytes "modeof") }

/-- The address that a text is. -/
def ofText (text : String) : Except AddressFault StoreAddress :=
  let before := text.toList.takeWhile (· ≠ '\x00')
  if before ≠ text.toList then .error (.nul (String.ofList before).utf8ByteSize)
  else
    match "file:".toList.isPrefixOf? text.toList with
    | some rest => ofScheme text rest
    | none => .ok { path? := if isUnkept (Utf8.bytes text) then none else some (Utf8.bytes text) }

end StoreAddress

end JoinWizard
