/-
# Writing JSON

One value has two written forms, told apart by a `Layout`: on one line, or with two blanks of
indentation a level.  An empty array or object is `[]` or `{}` in both.

A string is written with the least escaping: a quote and a backslash after a backslash, the
controls below U+0020 by their short name or by four lowercase hexadecimal digits.
-/

import JoinWizard.Json.Basic

namespace JoinWizard
namespace Json

/-- How the items of an array or object are set apart. -/
inductive Layout where
  | compact
  | indented
  deriving DecidableEq

namespace Layout

/-- What stands before an item at nesting depth `depth`, and before a closing bracket. -/
def lineBreak (depth : Nat) : Layout → List Char
  | compact => []
  | indented => '\n' :: List.replicate (2 * depth) ' '

/-- What stands between a key and its value. -/
def colon : Layout → List Char
  | compact => [':']
  | indented => [':', ' ']

end Layout

/-- The lowercase hexadecimal digit of a number below sixteen. -/
def hexDigit (n : Nat) : Char :=
  if n < 10 then Char.ofNat ('0'.toNat + n) else Char.ofNat ('a'.toNat + (n - 10))

/-- The written form of one character of a string. -/
def escape (c : Char) : List Char :=
  if c = '"' then ['\\', '"']
  else if c = '\\' then ['\\', '\\']
  else if c = '\x08' then ['\\', 'b']
  else if c = '\t' then ['\\', 't']
  else if c = '\n' then ['\\', 'n']
  else if c = '\x0c' then ['\\', 'f']
  else if c = '\r' then ['\\', 'r']
  else if c.toNat < 0x20 then
    ['\\', 'u', '0', '0', hexDigit (c.toNat / 16), hexDigit (c.toNat % 16)]
  else [c]

/-- A string literal.  `none` is written as a literal that denotes no text. -/
def writeString : Option String → List Char
  | some s => '"' :: s.toList.flatMap escape ++ ['"']
  | none => "\"\\ud800\"".toList

/-- A number literal.  `none` is written as a literal that denotes no integer. -/
def writeNumber : Option Int → List Char
  | some n => (toString n).toList
  | none => "-0".toList

mutual

/-- The written form of a value that stands at nesting depth `depth`. -/
def write (layout : Layout) (depth : Nat) : Json → List Char
  | .null => "null".toList
  | .bool true => "true".toList
  | .bool false => "false".toList
  | .number n => writeNumber n
  | .string s => writeString s
  | .array [] => "[]".toList
  | .array (item :: items) =>
    '[' :: layout.lineBreak (depth + 1) ++ write layout (depth + 1) item
      ++ writeItems layout depth items
  | .object [] => ['{', '}']
  | .object (member :: members) =>
    '{' :: layout.lineBreak (depth + 1) ++ writeMember layout depth member
      ++ writeMembers layout depth members

/-- The items of an array after the first, and its closing bracket. -/
def writeItems (layout : Layout) (depth : Nat) : List Json → List Char
  | [] => layout.lineBreak depth ++ [']']
  | item :: items =>
    ',' :: layout.lineBreak (depth + 1) ++ write layout (depth + 1) item
      ++ writeItems layout depth items

/-- The members of an object after the first, and its closing brace. -/
def writeMembers (layout : Layout) (depth : Nat) : List (Option String × Json) → List Char
  | [] => layout.lineBreak depth ++ ['}']
  | member :: members =>
    ',' :: layout.lineBreak (depth + 1) ++ writeMember layout depth member
      ++ writeMembers layout depth members

/-- A key and its value, inside an object at nesting depth `depth`. -/
def writeMember (layout : Layout) (depth : Nat) : Option String × Json → List Char
  | (key, value) => writeString key ++ layout.colon ++ write layout (depth + 1) value

end

/-- The text of a value. -/
def render (layout : Layout) (v : Json) : String := String.ofList (write layout 0 v)

end Json

/-- The JSON text of a value, on one line. -/
def toJsonText {α : Type} [JsonCodec α] (x : α) : String := (encode x).render .compact

end JoinWizard
