/-
# Paths

A path is a text, or at least bytes, with slashes.  A path that begins with one starts at the root,
any other at the working directory.  A step that is empty or `.` stays where it is, and `..` goes
up.

What stands in a directory is named by bytes.  Most names are texts, but not all.

Paths are cut as texts: the paths above `a/./b/c` are `a/./b` and `a`.
-/

import JoinWizard.Text.Utf8

namespace JoinWizard

/-- The name of what stands in a directory, in bytes. -/
abbrev FileName := List UInt8

namespace Path

/-- The steps of a path, between the slashes. -/
def steps (path : List UInt8) : List FileName := path.splitOn '/'.toUInt8

/-- Whether a path starts at the root. -/
def isAbsolute (path : List UInt8) : Bool := path.head? = some '/'.toUInt8

/-- Whether a step stays where it is. -/
def isStill (step : FileName) : Bool := step = [] || step = Utf8.bytes "."

/-- Whether a step goes up. -/
def isUp (step : FileName) : Bool := step = Utf8.bytes ".."

/-- Where a list of steps leads from a place without looking at what is there. -/
def follow (place : List FileName) : List FileName → List FileName
  | [] => place
  | step :: rest =>
    if isStill step then follow place rest
    else if isUp step then follow place.dropLast rest
    else follow (place ++ [step]) rest

/-- The path of a name in a directory. -/
def join (directory name : String) : String :=
  if directory = "" ∨ directory.toList.getLast? = some '/' then directory ++ name
  else directory ++ "/" ++ name

/-- The path of the given steps, last step first, without what leads nowhere at its end, and the
paths above it, the longest first.  Neither the root nor the working directory is among them, but
for a `.` in front. -/
def upward : List String → List String
  | [] => []
  | [step] => if step = "" then [] else [step]
  | step :: above =>
    if step = "" ∨ step = "." then upward above
    else "/".intercalate (step :: above).reverse :: upward above

/-- A path without what leads nowhere at its end, and the paths above it. -/
def selfAndAbove (path : String) : List String :=
  upward ((path.toList.splitOn '/').map String.ofList).reverse

/-- The paths above a path, the longest first. -/
def above (path : String) : List String := (selfAndAbove path).drop 1

end Path
end JoinWizard
