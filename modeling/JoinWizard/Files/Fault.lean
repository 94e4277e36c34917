/-
# What can go wrong with a file

The causes for which a path cannot be read, written or made, with the system's text and number.
-/

namespace JoinWizard

/-- Why a file or directory cannot be used. -/
inductive FileFault where
  | notFound
  | alreadyExists
  | notDirectory
  | isDirectory
  | nameTooLong
  /-- The file holds bytes that are no text. -/
  | notText
  /-- The path holds a NUL character. -/
  | nulInPath
  /-- Any other cause, by the system's text for it. -/
  | other (text : String)
  deriving DecidableEq, Repr

namespace FileFault

/-- The text of a fault. -/
def message : FileFault → String
  | notFound => "No such file or directory (os error 2)"
  | alreadyExists => "File exists (os error 17)"
  | notDirectory => "Not a directory (os error 20)"
  | isDirectory => "Is a directory (os error 21)"
  | nameTooLong => "File name too long (os error 36)"
  | notText => "stream did not contain valid UTF-8"
  | nulInPath => "file name contained an unexpected NUL byte"
  | other text => text

end FileFault

end JoinWizard
