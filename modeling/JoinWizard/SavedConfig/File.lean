/-
# Configuration files

A saved configuration may be kept in a file of its own, as JSON text on many lines.
-/

import JoinWizard.Json.Printer
import JoinWizard.Machine
import JoinWizard.SavedConfig

namespace JoinWizard

/-- Why a configuration file cannot be used. -/
inductive ConfigFileError where
  | io (fault : FileFault)
  | json (fault : JsonFault)
  deriving DecidableEq, Repr

namespace ConfigFileError

/-- The text of an error. -/
def message : ConfigFileError → String
  | io fault => "failed to read configuration: " ++ fault.message
  | json fault => "failed to parse configuration: " ++ fault.message

end ConfigFileError

namespace SavedConfig

open Machine

/-- The text of a configuration file. -/
def fileText (c : SavedConfig) : String := (encode c).render .indented

/-- Reads a configuration from a file's text. -/
def ofFileText (text : String) : Except ConfigFileError SavedConfig :=
  (ofJsonText text).mapError .json

variable {m : Type → Type} [Monad m] [Machine m]

/-- Reads the configuration file at a path. -/
def loadFile (path : String) : ExceptT ConfigFileError m SavedConfig := do
  match ← readText path with
  | .error fault => throw (.io fault)
  | .ok text => ofFileText text

/-- Writes a configuration file, in place of what stood at its path. -/
def saveFile (c : SavedConfig) (path : String) : ExceptT ConfigFileError m Unit := do
  match ← writeText path c.fileText with
  | .error fault => throw (.io fault)
  | .ok () => return ()

end SavedConfig
end JoinWizard
