/-
# Reading JSON

A reader takes a list of characters and gives what it read together with the characters it left.
`Json.parse` reads a whole text: one value with blanks around it and nothing after it.

The grammar is the strict one: no comments, no trailing commas, no leading zeros, no byte order
mark, no control character inside a string.  Nesting has no limit.

The readers of values and of lists of values call each other, each time with less fuel; a text of
`n` characters needs less than `3 * n + 3` (a brace costs three, a bracket two, a comma one).
-/

import JoinWizard.Json.Basic

namespace JoinWizard
namespace Json

/-- The blanks between the parts of a JSON text. -/
def isBlank (c : Char) : Bool := c = ' ' || c = '\n' || c = '\t' || c = '\r'

/-- Leaves out the blanks in front. -/
def skipBlanks (cs : List Char) : List Char := cs.dropWhile isBlank

/-- The value of a hexadecimal digit, of either case. -/
def hexValue? (c : Char) : Option Nat :=
  if c.isDigit then some (c.toNat - '0'.toNat)
  else if 'a' ≤ c && c ≤ 'f' then some (c.toNat - 'a'.toNat + 10)
  else if 'A' ≤ c && c ≤ 'F' then some (c.toNat - 'A'.toNat + 10)
  else none

/-- The number four hexadecimal digits denote. -/
def hex4? (a b c d : Char) : Option Nat := do
  return ((← hexValue? a) * 16 + (← hexValue? b)) * 256 + (← hexValue? c) * 16 + (← hexValue? d)

/-- A part of a string literal: a character, or the code unit of a surrogate escape. -/
inductive CodeUnit where
  | char (c : Char)
  | surrogate (n : Nat)

/-- The part a four-digit escape stands for. -/
def CodeUnit.ofNat (n : Nat) : CodeUnit :=
  if 0xD800 ≤ n ∧ n ≤ 0xDFFF then .surrogate n else .char (Char.ofNat n)

/-- The text of a literal's parts; none if a surrogate does not stand in a pair. -/
def joinUnits : List CodeUnit → Option (List Char)
  | [] => some []
  | .char c :: r => (joinUnits r).map (c :: ·)
  | .surrogate high :: .surrogate low :: r =>
    if high < 0xDC00 ∧ 0xDC00 ≤ low then
      (joinUnits r).map (Char.ofNat (0x10000 + (high - 0xD800) * 0x400 + (low - 0xDC00)) :: ·)
    else none
  | .surrogate _ :: _ => none

/-- The character a one-letter escape stands for. -/
def shortEscape? (c : Char) : Option Char :=
  match c with
  | '"' => some '"'
  | '\\' => some '\\'
  | '/' => some '/'
  | 'b' => some '\x08'
  | 'f' => some '\x0c'
  | 'n' => some '\n'
  | 'r' => some '\r'
  | 't' => some '\t'
  | _ => none

/-- Reads the parts of a string literal up to its closing quote. -/
def readUnits : List Char → Option (List CodeUnit × List Char)
  | [] => none
  | '"' :: r => some ([], r)
  | '\\' :: 'u' :: a :: b :: c :: d :: r => do
    let n ← hex4? a b c d
    let (units, rest) ← readUnits r
    return (.ofNat n :: units, rest)
  | '\\' :: c :: r => do
    let e ← shortEscape? c
    let (units, rest) ← readUnits r
    return (.char e :: units, rest)
  | c :: r =>
    if c.toNat < 0x20 ∨ c = '\\' then none
    else do
      let (units, rest) ← readUnits r
      return (.char c :: units, rest)

/-- Reads a string literal after its opening quote. -/
def readString (cs : List Char) : Option (Option String × List Char) := do
  let (units, rest) ← readUnits cs
  return ((joinUnits units).map String.ofList, rest)

/-- The number a list of decimal digits denotes. -/
def decimal (digits : List Char) : Nat :=
  digits.foldl (fun n c => 10 * n + (c.toNat - '0'.toNat)) 0

/-- Reads the digits of an integer part: a zero alone, or digits that begin with another. -/
def readDigits : List Char → Option (List Char × List Char)
  | '0' :: r => some (['0'], r)
  | cs =>
    match cs.takeWhile Char.isDigit with
    | [] => none
    | digits => some (digits, cs.dropWhile Char.isDigit)

/-- Reads a fraction, if one follows: whether one does, and the rest. -/
def readFraction : List Char → Option (Bool × List Char)
  | '.' :: r =>
    match r.takeWhile Char.isDigit with
    | [] => none
    | _ => some (true, r.dropWhile Char.isDigit)
  | cs => some (false, cs)

/-- Reads the digits of an exponent after its letter, with or without a sign. -/
def readExponentDigits (cs : List Char) : Option (List Char) :=
  let r := match cs with
    | '+' :: r => r
    | '-' :: r => r
    | r => r
  match r.takeWhile Char.isDigit with
  | [] => none
  | _ => some (r.dropWhile Char.isDigit)

/-- Reads an exponent, if one follows: whether one does, and the rest. -/
def readExponent : List Char → Option (Bool × List Char)
  | 'e' :: r => (readExponentDigits r).map (true, ·)
  | 'E' :: r => (readExponentDigits r).map (true, ·)
  | cs => some (false, cs)

/-- Reads a number literal.  It denotes an integer if it has no fraction, no exponent and is no
minus zero. -/
def readNumber (cs : List Char) : Option (Option Int × List Char) := do
  let (negative, unsigned) := match cs with
    | '-' :: r => (true, r)
    | r => (false, r)
  let (digits, rest) ← readDigits unsigned
  let (hasFraction, rest) ← readFraction rest
  let (hasExponent, rest) ← readExponent rest
  let n := decimal digits
  let value :=
    if hasFraction || hasExponent || (negative && n = 0) then none
    else if negative then some (-(n : Int))
    else some (n : Int)
  return (value, rest)

mutual

/-- Reads a value, after any blanks. -/
def readValue : Nat → List Char → Option (Json × List Char)
  | 0, _ => none
  | fuel + 1, cs =>
    match skipBlanks cs with
    | 'n' :: 'u' :: 'l' :: 'l' :: r => some (.null, r)
    | 't' :: 'r' :: 'u' :: 'e' :: r => some (.bool true, r)
    | 'f' :: 'a' :: 'l' :: 's' :: 'e' :: r => some (.bool false, r)
    | '"' :: r => (readString r).map fun (s, rest) => (.string s, rest)
    | '[' :: r =>
      match skipBlanks r with
      | ']' :: rest => some (.array [], rest)
      | r => (readItems fuel r).map fun (items, rest) => (.array items, rest)
    | '{' :: r =>
      match skipBlanks r with
      | '}' :: rest => some (.object [], rest)
      | r => (readMembers fuel r).map fun (members, rest) => (.object members, rest)
    | r => (readNumber r).map fun (n, rest) => (.number n, rest)

/-- Reads the items of an array, at least one, and its closing bracket. -/
def readItems : Nat → List Char → Option (List Json × List Char)
  | 0, _ => none
  | fuel + 1, cs =>
    match readValue fuel cs with
    | none => none
    | some (item, r) =>
      match skipBlanks r with
      | ',' :: r => (readItems fuel r).map fun (items, rest) => (item :: items, rest)
      | ']' :: rest => some ([item], rest)
      | _ => none

/-- Reads the members of an object, at least one, and its closing brace. -/
def readMembers : Nat → List Char → Option (List (Option String × Json) × List Char)
  | 0, _ => none
  | fuel + 1, cs =>
    match readMember fuel cs with
    | none => none
    | some (member, r) =>
      match skipBlanks r with
      | ',' :: r => (readMembers fuel r).map fun (members, rest) => (member :: members, rest)
      | '}' :: rest => some ([member], rest)
      | _ => none

/-- Reads a key, a colon and a value. -/
def readMember : Nat → List Char → Option ((Option String × Json) × List Char)
  | 0, _ => none
  | fuel + 1, cs =>
    match skipBlanks cs with
    | '"' :: r =>
      match readString r with
      | none => none
      | some (key, r) =>
        match skipBlanks r with
        | ':' :: r => (readValue fuel r).map fun (value, rest) => ((key, value), rest)
        | _ => none
    | _ => none

end

/-- Reads a whole text. -/
def parse (s : String) : Option Json :=
  let cs := s.toList
  match readValue (3 * cs.length + 3) cs with
  | some (v, rest) => if rest.all isBlank then some v else none
  | none => none

end Json

/-- Why a JSON text cannot be read as a value of some type. -/
inductive JsonFault where
  /-- The text is no JSON text. -/
  | malformed
  /-- The text is one, of a value that does not fit the type. -/
  | unfit
  deriving DecidableEq, Repr

namespace JsonFault

/-- The text of a fault. -/
def message : JsonFault → String
  | malformed => "the text is not well-formed JSON"
  | unfit => "the value does not have the expected shape"

end JsonFault

/-- Reads a value of a type from its JSON text. -/
def ofJsonText {α : Type} [JsonCodec α] (s : String) : Except JsonFault α :=
  match Json.parse s with
  | none => .error .malformed
  | some v =>
    match decode v with
    | none => .error .unfit
    | some x => .ok x

end JoinWizard
