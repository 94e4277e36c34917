/-
# TOML documents

A document is a row of lines.  Assignments before the first header go to the root table, those
after a header to its table; blank lines and comments may stand anywhere.

Inside an array or an inline table, blanks, comments and line ends may stand between all parts, but
not within a key, and a comma may stand after the last item.  Elsewhere an assignment takes one
line, unless its value goes over several.  Arrays and inline tables may not be nested deeper than
`Toml.depthLimit`.

The readers of values and of their parts call each other, each time with less fuel; as each call
but every third takes a character, three times the length of the text is enough.
-/

import JoinWizard.Toml.Quoted
import JoinWizard.Toml.Scalar

namespace JoinWizard
namespace Toml

open Reader

/-- The characters that end a word. -/
def wordEnds : List Char :=
  ['=', ',', '[', ']', '{', '}', '#', ' ', '\t', '\r', '\n']

/-- Whether a character may stand in a word. -/
def isWordChar (c : Char) : Bool := !wordEnds.contains c

/-- Whether a blank and a digit come next. -/
def isTimeNext : Reader Bool := fun cs =>
  match cs with
  | ' ' :: c :: _ => some (c.isDigit, cs)
  | _ => some (false, cs)

/-- Reads a word.  One blank may stand in it, between a date and a time. -/
def readWord : Reader (List Char) := do
  let word ← takeWhile isWordChar
  if afterDate? word = some [] && (← isTimeNext) then
    let _ ← next
    return word ++ ' ' :: (← takeWhile isWordChar)
  else return word

mutual

/-- Reads a value that may hold brackets of so many depths. -/
def readValue (depth : Nat) : Nat → Reader Toml
  | 0 => failure
  | fuel + 1 => do
    if ← accept ['['] then
      if depth = 0 then failure
      return .array (← readItems (depth - 1) fuel)
    else if ← accept ['{'] then
      if depth = 0 then failure
      match assignAll (← readMembers (depth - 1) fuel) [] with
      | some entries => return .table .inline entries
      | none => failure
    else
      match ← readText? with
      | some s => return .text s
      | none =>
        match ofWord? (← readWord) with
        | some v => return v
        | none => failure

/-- Reads the items of an array that are left, and its closing bracket. -/
def readItems (depth : Nat) : Nat → Reader (List Toml)
  | 0 => failure
  | fuel + 1 => do
    skipSpace
    if ← accept [']'] then return []
    let item ← readValue depth fuel
    skipSpace
    if ← accept [','] then return item :: (← readItems depth fuel)
    expect [']']
    return [item]

/-- Reads the assignments of an inline table that are left, and its closing brace. -/
def readMembers (depth : Nat) : Nat → Reader (List (List String × Toml))
  | 0 => failure
  | fuel + 1 => do
    skipSpace
    if ← accept ['}'] then return []
    let member ← readAssignment skipSpace depth fuel
    skipSpace
    if ← accept [','] then return member :: (← readMembers depth fuel)
    expect ['}']
    return [member]

/-- Reads a key, an equals sign and a value, where `skip` leaves out what may stand between them. -/
def readAssignment (skip : Reader Unit) (depth : Nat) : Nat → Reader (List String × Toml)
  | 0 => failure
  | fuel + 1 => do
    let key ← readKey
    skip
    expect ['=']
    skip
    return (key, ← readValue depth fuel)

end

/-- Reads the end of a line: a comment perhaps, and then a line end or the end of the text. -/
def endLine : Reader Unit := do
  skipComment
  if (← peek?).isSome then
    unless ← acceptLineEnd do failure

/-- Reads the assignments up to the next header or the end of the text; there are less of them than
`fuel`. -/
def readAssignments : Nat → Reader (List (List String × Toml))
  | 0 => failure
  | fuel + 1 => do
    skipSpace
    match ← peek? with
    | none => return []
    | some '[' => return []
    | some _ =>
      let first ← readAssignment skipBlanks depthLimit (3 * (← remaining) + 3)
      endLine
      return first :: (← readAssignments fuel)

/-- Reads a header and the assignments under it. -/
def readSection : Reader Section := do
  expect ['[']
  let isElement ← accept ['[']
  let path ← readKey
  expect (if isElement then [']', ']'] else [']'])
  endLine
  return { path, isElement, assignments := ← readAssignments ((← remaining) + 1) }

/-- Reads sections up to the end of the text; there are less of them than `fuel`. -/
def readSections : Nat → Reader (List Section)
  | 0 => failure
  | fuel + 1 => do
    match ← peek? with
    | none => return []
    | some _ =>
      let first ← readSection
      return first :: (← readSections fuel)

/-- Reads a document: the entries of its root table.  A byte order mark in front does not count. -/
def parse (text : String) : Option Entries := do
  let cs := text.toList
  let cs := if cs.head? = some '\ufeff' then cs.tail else cs
  let (assignments, rest) ← readAssignments (cs.length + 1) cs
  let (sections, _) ← readSections (rest.length + 1) rest
  ofSections assignments sections

end Toml
end JoinWizard
