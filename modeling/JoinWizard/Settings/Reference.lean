/-
# References to environment variables

A text may refer to environment variables.  It is a row of tokens:

| token | written as |
| --- | --- |
| braced reference | `$`, an opening brace, a name without a closing brace, a closing brace |
| bare reference | `$` and the longest run of letters, numbers and `_` |
| dollar | `$` before anything else |
| literal | everything up to the next `$` |

A braced reference without a name or without its closing brace cannot be read, and neither can what
follows it.

A text is expanded by putting the variables' values in place of the references.  The values are
taken as they are: a reference in a value stays.
-/

import JoinWizard.Machine
import JoinWizard.Text.Alphanumeric

namespace JoinWizard

/-- Why a text with references cannot be expanded. -/
inductive ReferenceError where
  /-- A variable that is referred to is not set. -/
  | unset (name : String)
  /-- A reference in the text cannot be read. -/
  | malformed (text : String)
  deriving DecidableEq, Repr

namespace ReferenceError

/-- The text of a failed expansion. -/
def message : ReferenceError → String
  | unset name => "Missing environment variable: " ++ name
  | malformed text => "Malformed environment variable reference in '" ++ text ++ "'"

end ReferenceError

namespace Reference

/-- A token of a text with references. -/
inductive Token where
  | literal (text : List Char)
  | braced (name : List Char)
  | bare (name : List Char)
  | dollar
  deriving DecidableEq, Repr

namespace Token

/-- The written form of a token. -/
def render : Token → List Char
  | literal text => text
  | braced name => '$' :: '{' :: name ++ ['}']
  | bare name => '$' :: name
  | dollar => ['$']

/-- The variable a token refers to. -/
def variableName? : Token → Option String
  | braced name => some (String.ofList name)
  | bare name => some (String.ofList name)
  | _ => none

end Token

/-- Whether a character may stand in a bare reference. -/
def isNameChar (c : Char) : Bool := isAlphanumeric c || c = '_'

/-- Splits a text into tokens, up to the first reference that cannot be read: the tokens, and the
text from that reference on. -/
def scan (cs : List Char) : List Token × List Char :=
  match cs with
  | [] => ([], [])
  | '$' :: '{' :: r =>
    match _h : r.dropWhile (· ≠ '}') with
    | [] => ([], cs)
    | _ :: rest =>
      match r.takeWhile (· ≠ '}') with
      | [] => ([], cs)
      | name =>
        let (tokens, tail) := scan rest
        (.braced name :: tokens, tail)
  | '$' :: r =>
    match r.takeWhile isNameChar with
    | [] =>
      let (tokens, tail) := scan r
      (.dollar :: tokens, tail)
    | name =>
      let (tokens, tail) := scan (r.dropWhile isNameChar)
      (.bare name :: tokens, tail)
  | c :: r =>
    let (tokens, tail) := scan (r.dropWhile (· ≠ '$'))
    (.literal (c :: r.takeWhile (· ≠ '$')) :: tokens, tail)
termination_by cs.length
decreasing_by
  · have := (List.dropWhile_sublist (l := r) (· ≠ '}')).length_le
    simp_all
    omega
  · simp
  · have := (List.dropWhile_sublist (l := r) isNameChar).length_le
    simp only [List.length_cons]
    omega
  · have := (List.dropWhile_sublist (l := r) (· ≠ '$')).length_le
    simp only [List.length_cons]
    omega

section Expand

variable {m : Type → Type} [Monad m]

/-- What a token expands to, where `value?` has the values of the variables. -/
def Token.expand (value? : String → m (Option String)) (t : Token) :
    ExceptT ReferenceError m (List Char) := do
  match t.variableName? with
  | none => return t.render
  | some name =>
    match ← value? name with
    | some value => return value.toList
    | none => throw (.unset name)

/-- Expands the references of a text from left to right, where `value?` has the values of the
variables.  The first fault decides. -/
def expand (value? : String → m (Option String)) (text : String) :
    ExceptT ReferenceError m String := do
  let (tokens, unread) := scan text.toList
  let parts ← tokens.mapM (Token.expand value?)
  unless unread.isEmpty do throw (.malformed text)
  return String.ofList parts.flatten

end Expand

end Reference
end JoinWizard
