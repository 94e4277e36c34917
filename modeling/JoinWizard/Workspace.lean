/-
# Workspaces

A machine as a value: a file tree, a working directory in it, the variables of an environment, and
a clock that stands still.  What a program does on it is a function of the workspace, and the
workspace after it shows everything that was changed.
-/

import JoinWizard.Files.Stores

namespace JoinWizard

/-- A machine as a value. -/
structure Workspace where
  files : FileTree := .empty
  /-- The place of the working directory. -/
  workDir : List FileName := []
  environment : List (String × String) := []
  clock : Int64 := 0

namespace Workspace

/-- The value of an environment variable.  A variable is kept as its name, an equals sign and its
value; so, if the value holds another one, its part before that counts as part of the name too. -/
def getVariable (w : Workspace) (name : String) : Option String :=
  if !isVariableName name then none
  else
    w.environment.findSome? fun (key, value) =>
      ((name ++ "=").toList.isPrefixOf? (key ++ "=" ++ value).toList).map String.ofList

/-- The workspace with a file made at a path, and the directories above it. -/
def addFile (w : Workspace) (path : String) (bytes : ByteArray) : Workspace :=
  let files := (w.files.ensureDirectories w.workDir (Path.above path)).2
  match files.locate w.workDir (Utf8.bytes path) with
  | .ok place => { w with files := files.put (.file bytes) place }
  | .error _ => { w with files }

/-- The workspace with a directory made at a path, and the directories above it. -/
def addDirectory (w : Workspace) (path : String) : Workspace :=
  { w with files := (w.files.ensureDirectories w.workDir (Path.selfAndAbove path)).2 }

instance : Machine (StateM Workspace) where
  getVariable name := fun w => (w.getVariable name, w)
  pathExists path := fun w => ((w.files.look w.workDir (Utf8.bytes path)).isOk, w)
  readText path := fun w => (w.files.readText w.workDir path, w)
  writeText path text := fun w =>
    match w.files.writeText w.workDir path text with
    | .ok files => (.ok (), { w with files })
    | .error fault => (.error fault, w)
  readStore name := fun w =>
    let (found, files) := w.files.readStore w.workDir name
    (found, { w with files })
  checkWritable name := fun w => (w.files.checkWritable w.workDir name, w)
  writeStore name store := fun w =>
    match w.files.writeStore w.workDir name store with
    | .ok files => (.ok (), { w with files })
    | .error e => (.error e, w)
  closeStore name := fun w => ((), { w with files := w.files.closeStore w.workDir name })
  now := fun w => (w.clock, w)

end Workspace

end JoinWizard
