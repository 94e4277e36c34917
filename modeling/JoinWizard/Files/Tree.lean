/-
# File trees

A tree of directories, files and datasource stores.  A *place* in it is the list of names that
leads there from the root.  A path is brought to a place step by step, and every step is taken from
a directory: what is missing or is no directory on the way is a fault.
-/

import JoinWizard.Files.Path
import JoinWizard.Machine

namespace JoinWizard

/-- A directory with what stands in it, a file with its bytes, or a store, which may be one that is
always written through a log. -/
inductive FileTree where
  | directory (entries : List (FileName × FileTree))
  | file (bytes : ByteArray)
  | store (store : Store) (isLogged : Bool)
  deriving Inhabited

namespace FileTree

/-- The tree with nothing in it. -/
def empty : FileTree := .directory []

/-- What stands under a name in a directory. -/
def child? (t : FileTree) (name : FileName) : Option FileTree :=
  match t with
  | .directory entries => entries.lookup name
  | _ => none

/-- What stands at a place. -/
def at? (t : FileTree) : List FileName → Option FileTree
  | [] => some t
  | name :: rest =>
    match t.child? name with
    | some c => c.at? rest
    | none => none

/-- The entries with one set, in its old position if there was one. -/
def setEntry (name : FileName) (t : FileTree) :
    List (FileName × FileTree) → List (FileName × FileTree)
  | [] => [(name, t)]
  | (key, old) :: rest =>
    if key = name then (name, t) :: rest else (key, old) :: setEntry name t rest

/-- The tree with something put at a place.  It stays as it is if the way there is no way of
directories. -/
def put (t : FileTree) (new : FileTree) : List FileName → FileTree
  | [] => new
  | name :: rest =>
    match t with
    | .directory entries =>
      match entries.lookup name with
      | some c => .directory (setEntry name (c.put new rest) entries)
      | none => if rest.isEmpty then .directory (setEntry name new entries) else t
    | _ => t

/-- The tree without what stands at a place. -/
def erase (t : FileTree) : List FileName → FileTree
  | [] => t
  | name :: rest =>
    match t with
    | .directory entries =>
      if rest.isEmpty then .directory (entries.filter fun (key, _) => key ≠ name)
      else
        match entries.lookup name with
        | some c => .directory (setEntry name (c.erase rest) entries)
        | none => t
    | _ => t

/-- Whether a directory stands at a place. -/
def isDirectory (t : FileTree) (place : List FileName) : Bool :=
  match t.at? place with
  | some (.directory _) => true
  | _ => false

/-- The length from which a name, and a path, is too long, in bytes. -/
def nameLimit : Nat := 256

/-- The length from which a path is too long, in bytes. -/
def pathLimit : Nat := 4096

/-- Takes the steps of a path from a place.  What the last step leads to need not be there. -/
def walk (t : FileTree) (place : List FileName) :
    List FileName → Except FileFault (List FileName)
  | [] => .ok place
  | step :: rest =>
    match t.at? place with
    | none => .error .notFound
    | some (.directory _) =>
      if Path.isStill step then t.walk place rest
      else if Path.isUp step then t.walk place.dropLast rest
      else if step.length ≥ nameLimit then .error .nameTooLong
      else t.walk (place ++ [step]) rest
    | some _ => .error .notDirectory

/-- Whether bytes are a path at all. -/
def checkPath (path : List UInt8) : Except FileFault Unit :=
  if path.contains 0 then .error .nulInPath
  else if path.isEmpty then .error .notFound
  else if path.length ≥ pathLimit then .error .nameTooLong
  else .ok ()

/-- The place where a path starts, in a working directory. -/
def startOf (workDir : List FileName) (path : List UInt8) : List FileName :=
  if Path.isAbsolute path then [] else workDir

/-- The place a path leads to, from a working directory. -/
def locate (t : FileTree) (workDir : List FileName) (path : List UInt8) :
    Except FileFault (List FileName) := do
  checkPath path
  t.walk (startOf workDir path) (Path.steps path)

/-- What a path leads to. -/
def look (t : FileTree) (workDir : List FileName) (path : List UInt8) :
    Except FileFault FileTree := do
  match t.at? (← t.locate workDir path) with
  | some found => return found
  | none => throw .notFound

/-- The text of the file a path leads to. -/
def readText (t : FileTree) (workDir : List FileName) (path : String) :
    Except FileFault String := do
  match ← t.look workDir (Utf8.bytes path) with
  | .directory _ => throw .isDirectory
  | .file bytes => fileText bytes
  | .store _ _ => throw .notText

/-- The steps before the name that a path ends in, if slashes follow it. -/
def beforeSlashedName? (steps : List FileName) : Option (List FileName) :=
  match steps.reverse with
  | last :: rest =>
    match rest.dropWhile (·.isEmpty) with
    | name :: above =>
      if !last.isEmpty || Path.isStill name || Path.isUp name then none else some above.reverse
    | [] => none
  | [] => none

/-- The tree after a text was written to a path.  A name with slashes behind it is taken for a
directory, be it there or not, if only the one above it is there. -/
def writeText (t : FileTree) (workDir : List FileName) (path text : String) :
    Except FileFault FileTree := do
  let path := Utf8.bytes path
  checkPath path
  match beforeSlashedName? (Path.steps path) with
  | some above =>
    let _ ← t.walk (startOf workDir path) (above ++ [Utf8.bytes "."])
    throw .isDirectory
  | none =>
    let place ← t.locate workDir path
    if t.isDirectory place then throw .isDirectory
    return t.put (.file text.toUTF8) place

/-- The tree after a directory was made; the one above it has to be there. -/
def makeDirectory (t : FileTree) (workDir : List FileName) (path : String) :
    Except FileFault FileTree := do
  let place ← t.locate workDir (Utf8.bytes path)
  if (t.at? place).isSome then throw .alreadyExists
  return t.put empty place

/-- The tree with a directory at a path, which is made unless it is there. -/
def ensureDirectory (t : FileTree) (workDir : List FileName) (path : String) :
    Except FileFault FileTree :=
  match t.makeDirectory workDir path with
  | .error .alreadyExists =>
    match t.look workDir (Utf8.bytes path) with
    | .ok (.directory _) => .ok t
    | _ => .error .alreadyExists
  | made => made

/-- Makes the first of some directories, each of which is above the one before it.  Those above it
are made if one is missing, and stay if it comes to a fault. -/
def ensureDirectories (t : FileTree) (workDir : List FileName) :
    List String → Except FileFault Unit × FileTree
  | [] => (.ok (), t)
  | path :: above =>
    match t.ensureDirectory workDir path with
    | .ok made => (.ok (), made)
    | .error .notFound =>
      match t.ensureDirectories workDir above with
      | (.ok (), t) =>
        match t.ensureDirectory workDir path with
        | .ok made => (.ok (), made)
        | .error fault => (.error fault, t)
      | failed => failed
    | .error fault => (.error fault, t)

end FileTree

end JoinWizard
