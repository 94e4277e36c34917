/-
# TOML strings and keys

A `Reader` takes characters from the front of a text and gives what it read, or fails.  Read here
are the smallest parts of a document: blanks, comments, line ends, strings and keys.

A string stands between quotes, single or double, one or three of them.  Between three it may go
over several lines; a line end right after the opening quotes does not count, and up to two quotes
may stand before the closing ones.  Escapes are those of double quotes only.  A backslash before a
line end, between three double quotes, takes away all blanks and line ends up to the next
character.
-/

import JoinWizard.Json.Parser
import JoinWizard.Toml.Basic

namespace JoinWizard
namespace Toml

/-- A reader of a part of a text. -/
abbrev Reader := StateT (List Char) Option

namespace Reader

/-- Takes a text, if it comes next: whether it does. -/
def accept (text : List Char) : Reader Bool := fun cs =>
  if text.isPrefixOf cs then some (true, cs.drop text.length) else some (false, cs)

/-- Takes a text, which has to come next. -/
def expect (text : List Char) : Reader Unit := do
  unless ← accept text do failure

/-- The next character, which is taken. -/
def next : Reader Char
  | [] => none
  | c :: cs => some (c, cs)

/-- The next character, which is left. -/
def peek? : Reader (Option Char) := fun cs => some (cs.head?, cs)

/-- The characters of a kind that come next. -/
def takeWhile (p : Char → Bool) : Reader (List Char) := fun cs =>
  some (cs.takeWhile p, cs.dropWhile p)

/-- The number of characters that are left. -/
def remaining : Reader Nat := fun cs => some (cs.length, cs)

end Reader

open Reader

/-- Whether a character is a blank. -/
def isBlank (c : Char) : Bool := c = ' ' || c = '\t'

/-- Whether a character may stand neither in a comment nor, as it is, in a string of one line. -/
def isControl (c : Char) : Bool := (c.toNat < 0x20 && c ≠ '\t') || c = '\x7f'

/-- Leaves out blanks. -/
def skipBlanks : Reader Unit := do
  let _ ← takeWhile isBlank

/-- Takes a line end, if one comes next: whether one does. -/
def acceptLineEnd : Reader Bool := do
  if ← accept ['\n'] then return true else accept ['\r', '\n']

/-- Leaves out blanks and a comment. -/
def skipComment : Reader Unit := do
  skipBlanks
  if ← accept ['#'] then
    let _ ← takeWhile fun c => !isControl c

/-- Leaves out blanks, comments and line ends; there are less of them than `fuel`. -/
def skipLines : Nat → Reader Unit
  | 0 => failure
  | fuel + 1 => do
    skipComment
    if ← acceptLineEnd then skipLines fuel

/-- Leaves out blanks, comments and line ends. -/
def skipSpace : Reader Unit := do skipLines ((← remaining) + 1)

/-- Leaves out blanks and line ends. -/
def dropSpace : List Char → List Char
  | '\r' :: '\n' :: cs => dropSpace cs
  | c :: cs => if isBlank c || c = '\n' then dropSpace cs else c :: cs
  | [] => []

/-- After a backslash: leaves out the line end, and all blanks and line ends around it, if there is
one on this line behind nothing but blanks; whether there is one. -/
def acceptContinuation : Reader Bool := fun cs =>
  match cs.dropWhile isBlank with
  | '\n' :: r => some (true, dropSpace r)
  | '\r' :: '\n' :: r => some (true, dropSpace r)
  | _ => some (false, cs)

/-- The character whose number stands in so many hexadecimal digits. -/
def readCharCode (digits : Nat) : Reader Char := fun cs => do
  let values ← (cs.take digits).mapM Json.hexValue?
  let n := values.foldl (fun n d => 16 * n + d) 0
  if values.length = digits ∧ n.isValidChar then some (Char.ofNat n, cs.drop digits) else none

/-- The character an escape stands for, after the backslash. -/
def readEscape : Reader Char := do
  match ← next with
  | '"' => return '"'
  | '\\' => return '\\'
  | 'b' => return '\x08'
  | 't' => return '\t'
  | 'n' => return '\n'
  | 'f' => return '\x0c'
  | 'r' => return '\r'
  | 'e' => return '\x1b'
  | 'x' => readCharCode 2
  | 'u' => readCharCode 4
  | 'U' => readCharCode 8
  | _ => failure

/-- The quotes that follow a first one, at most four: with it they are at most two of the string
and three that close it. -/
def takeQuotes (quote : Char) : Reader (List Char) := fun cs =>
  let quotes := (cs.take 4).takeWhile (· = quote)
  some (quotes, cs.drop quotes.length)

/-- Reads a string from behind its opening quotes; it has less characters than `fuel`. -/
def readString (quote : Char) (multiline : Bool) : Nat → Reader (List Char)
  | 0 => failure
  | fuel + 1 => do
    let c ← next
    if c = quote then
      if multiline then
        let quotes := c :: (← takeQuotes quote)
        if quotes.length < 3 then return quotes ++ (← readString quote multiline fuel)
        else return quotes.drop 3
      else return []
    else if c = '\\' && quote = '"' then
      if multiline && (← acceptContinuation) then readString quote multiline fuel
      else return (← readEscape) :: (← readString quote multiline fuel)
    else if c = '\n' && multiline then return c :: (← readString quote multiline fuel)
    else if c = '\r' && multiline then
      expect ['\n']
      return '\r' :: '\n' :: (← readString quote multiline fuel)
    else if isControl c then failure
    else return c :: (← readString quote multiline fuel)

/-- Reads a string of one line, if a quote comes next. -/
def readLine? : Reader (Option String) := do
  let fuel := (← remaining) + 1
  if ← accept ['"'] then return String.ofList (← readString '"' false fuel)
  else if ← accept ['\''] then return String.ofList (← readString '\'' false fuel)
  else return none

/-- Reads a string, if a quote comes next. -/
def readText? : Reader (Option String) := do
  let fuel := (← remaining) + 1
  if ← accept ['"', '"', '"'] then
    let _ ← acceptLineEnd
    return String.ofList (← readString '"' true fuel)
  else if ← accept ['\'', '\'', '\''] then
    let _ ← acceptLineEnd
    return String.ofList (← readString '\'' true fuel)
  else readLine?

/-- Reads one part of a key: a string of one line, or letters, digits, `_` and `-` of ASCII. -/
def readKeyPart : Reader String := do
  match ← readLine? with
  | some s => return s
  | none =>
    match ← takeWhile fun c => c.isAlphanum || c = '_' || c = '-' with
    | [] => failure
    | cs => return String.ofList cs

/-- Reads the parts of a key, with blanks and points between them; there are at most `fuel`. -/
def readKeyParts : Nat → Reader (List String)
  | 0 => failure
  | fuel + 1 => do
    skipBlanks
    let part ← readKeyPart
    skipBlanks
    if ← accept ['.'] then return part :: (← readKeyParts fuel) else return [part]

/-- Reads a key and the blanks around it. -/
def readKey : Reader (List String) := do
  let parts ← readKeyParts (← remaining)
  if parts.length ≤ depthLimit then return parts else failure

end Toml
end JoinWizard
