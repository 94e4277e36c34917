/-
# Catalog files

A connection with the driver `json`, in letters of either case, reaches a file: the connection
string is the path of a source document in JSON.  The file is read again for every question, so
that a refresh sees what was changed in it.
-/

import JoinWizard.Machine
import JoinWizard.Source.Provider

namespace JoinWizard
namespace CatalogFile

open Machine

variable {m : Type → Type} [Monad m] [Machine m]

/-- The driver of catalog files. -/
def driver : String := "json"

/-- Reads the document that a connection reaches. -/
def document (c : Connection) : ExceptT SourceError m SourceDocument := do
  if c.driver.toLower ≠ driver then throw (.driverUnsupported c.driver)
  unless ← pathExists c.connectionString do
    throw (.connectionFailed ("catalog file not found: " ++ c.connectionString))
  match ← readText c.connectionString with
  | .error fault => throw (.io fault)
  | .ok text =>
    match ofJsonText text with
    | .error fault => throw (.json fault)
    | .ok found => return found

/-- The provider of catalog files. -/
def provider : Provider m where
  schemas c := (·.map SourceDocument.infos) <$> (document c).run
  tables c schema := (·.bind (·.tablesIn schema)) <$> (document c).run

end CatalogFile
end JoinWizard
