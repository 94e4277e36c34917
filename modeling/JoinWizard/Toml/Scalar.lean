/-
# Words

A value that is neither in quotes nor in brackets is a word: a truth value, a number, a date, a
time, or both with a `T` or a blank between them.  `Toml.ofWord?` tells which, if any.

| word | rules |
| --- | --- |
| integer | a sign, and digits without a leading zero; or `0x`, `0o`, `0b` and digits, unsigned |
| float | a sign, an integer part, and a fraction or an exponent or both; `inf` and `nan` |
| date | `YYYY-MM-DD`, a day of the calendar |
| time | `HH:MM`, seconds and their fraction if wanted; after a date an offset from UTC if wanted |

An underscore may stand between two digits of a number.  An integer is in range if it fits 128 bits,
signed or unsigned, and a float unless it is so large that it rounds to infinity.  A number out of
range is a value all the same (`Toml.isInRange`).
-/

import JoinWizard.Json.Parser
import JoinWizard.Toml.Basic

namespace JoinWizard
namespace Toml

/-- The digits of a number, without the underscores between them. -/
def digitsOf (cs : List Char) : List Char := cs.filter (· ≠ '_')

/-- Whether every underscore stands between two digits. -/
def hasGroups (isDigit : Char → Bool) (cs : List Char) : Bool :=
  match cs.splitOn '_' with
  | first :: second :: rest =>
    first.getLast?.any isDigit &&
      (second :: rest).all (fun group => group.head?.any isDigit) &&
      (second :: rest).dropLast.all (fun group => group.getLast?.any isDigit)
  | _ => true

/-- The number that digits denote in a given base. -/
def numberOf (base : Nat) (digits : List Char) : Nat :=
  digits.foldl (fun n c => base * n + (Json.hexValue? c).getD 0) 0

/-- Whether digits begin with a zero that is not needed. -/
def hasLeadingZero : List Char → Bool
  | '0' :: _ :: _ => true
  | _ => false

/-- A sign in front, if there is one, and the rest: whether the sign is a minus. -/
def splitSign : List Char → Bool × List Char
  | '-' :: r => (true, r)
  | '+' :: r => (false, r)
  | r => (false, r)

/-- Whether a character is a digit of a base of at most sixteen. -/
def isDigitOf (base : Nat) (c : Char) : Bool := (Json.hexValue? c).any (· < base)

/-- The least integer of 128 bits, signed. -/
def leastInteger : Int := -Int.ofNat (1 <<< 127)

/-- The greatest integer of 128 bits, unsigned. -/
def greatestInteger : Int := Int.ofNat (1 <<< 128 - 1)

/-- An integer, unless it is out of range. -/
def ofInt (n : Int) : Toml :=
  .integer (if leastInteger ≤ n ∧ n ≤ greatestInteger then some n else none)

/-- The integer that is written in digits of a base.  Without a digit it is out of range. -/
def basedInteger? (base : Nat) (cs : List Char) : Option Toml :=
  if !(digitsOf cs).all (isDigitOf base) || !hasGroups (isDigitOf base) cs then none
  else if cs.isEmpty then some (.integer none)
  else some (ofInt (numberOf base (digitsOf cs)))

/-- The integer that is written in decimal digits, with a sign or without.  What follows an
underscore is not looked at closely: with anything but digits there, the integer is out of range. -/
def decimalInteger? (cs : List Char) : Option Toml :=
  let (negative, r) := splitSign cs
  let isWord := !r.isEmpty && (r.dropWhile Char.isDigit).head?.all (· = '_')
  if !isWord || hasLeadingZero r || !hasGroups (isDigitOf 16) cs then none
  else if (digitsOf r).all Char.isDigit then
    let n : Int := numberOf 10 (digitsOf r)
    some (ofInt (if negative then -n else n))
  else some (.integer none)

/-- Whether `digits · 10 ^ exponent` is too large for a double: from halfway between the largest one
and the next power of two on. -/
def isOverflow (digits : List Char) (exponent : Int) : Bool :=
  let m := numberOf 10 digits
  let bound := 1 <<< 1024 - 1 <<< 970
  let size := ((toString m).length : Int) + exponent
  if m = 0 ∨ size < 309 then false
  else if size > 309 then true
  else m * Nat.pow 10 exponent.toNat ≥ bound * Nat.pow 10 (-exponent).toNat

/-- Digits in front, at least one and perhaps with underscores, and the rest. -/
def splitDigits? (cs : List Char) : Option (List Char × List Char) :=
  let isPart (c : Char) : Bool := c.isDigit || c = '_'
  if (digitsOf (cs.takeWhile isPart)).isEmpty then none
  else some (cs.takeWhile isPart, cs.dropWhile isPart)

/-- The digits after a point in front, if there is one, and what follows the fraction. -/
def splitFraction? (cs : List Char) : Option (List Char × List Char) :=
  match cs with
  | '.' :: r => splitDigits? r
  | r => some ([], r)

/-- The exponent that is written after a letter, or zero where nothing is written. -/
def exponent? : List Char → Option Int
  | [] => some 0
  | c :: r =>
    if c = 'e' ∨ c = 'E' then
      let (negative, r) := splitSign r
      match splitDigits? r with
      | some (ds, []) =>
        let n : Int := numberOf 10 (digitsOf ds)
        some (if negative then -n else n)
      | _ => none
    else none

/-- The float that a word denotes which holds a point or an exponent. -/
def float? (cs : List Char) : Option Toml := do
  let (whole, r) ← splitDigits? (splitSign cs).2
  let (fraction, r) ← splitFraction? r
  let exponent ← exponent? r
  if hasLeadingZero whole || !hasGroups Char.isDigit cs then none
  else
    let digits := digitsOf (whole ++ fraction)
    return .float !isOverflow digits (exponent - (digitsOf fraction).length)

/-- The number that exactly so many digits in front denote, and the rest. -/
def fixedDigits? (count : Nat) (cs : List Char) : Option (Nat × List Char) :=
  let ds := cs.take count
  if ds.length = count ∧ ds.all Char.isDigit then some (numberOf 10 ds, cs.drop count) else none

/-- The days of a month. -/
def daysOf (year month : Nat) : Nat :=
  if month = 2 then
    if year % 4 = 0 ∧ (year % 100 ≠ 0 ∨ year % 400 = 0) then 29 else 28
  else if month = 4 ∨ month = 6 ∨ month = 9 ∨ month = 11 then 30
  else 31

/-- What follows a date in front. -/
def afterDate? (cs : List Char) : Option (List Char) := do
  let (year, r) ← fixedDigits? 4 cs
  let '-' :: r := r | none
  let (month, r) ← fixedDigits? 2 r
  let '-' :: r := r | none
  let (day, r) ← fixedDigits? 2 r
  if 1 ≤ month ∧ month ≤ 12 ∧ 1 ≤ day ∧ day ≤ daysOf year month then some r else none

/-- What follows hours and minutes in front. -/
def afterMinutes? (cs : List Char) : Option (List Char) := do
  let (hour, r) ← fixedDigits? 2 cs
  let ':' :: r := r | none
  let (minute, r) ← fixedDigits? 2 r
  if hour ≤ 23 ∧ minute ≤ 59 then some r else none

/-- What follows a time in front.  The sixtieth second is a leap second. -/
def afterTime? (cs : List Char) : Option (List Char) := do
  let r ← afterMinutes? cs
  let ':' :: r := r | return r
  let (second, r) ← fixedDigits? 2 r
  if second > 60 then none
  else
    match r with
    | '.' :: r =>
      if (r.takeWhile Char.isDigit).isEmpty then none else some (r.dropWhile Char.isDigit)
    | r => some r

/-- Whether a word is an offset from UTC, or empty. -/
def isOffset : List Char → Bool
  | [] => true
  | ['Z'] => true
  | ['z'] => true
  | c :: r => (c = '+' || c = '-') && afterMinutes? r = some []

/-- Whether a word denotes a date, a time or both. -/
def isDateTime (cs : List Char) : Bool :=
  match afterDate? cs with
  | some [] => true
  | some (c :: r) => (c = 'T' || c = 't' || c = ' ') && (afterTime? r).any isOffset
  | none => afterTime? cs = some []

/-- The number that a word denotes. -/
def number? (cs : List Char) : Option Toml :=
  match cs with
  | '0' :: 'x' :: r => basedInteger? 16 r
  | '0' :: 'o' :: r => basedInteger? 8 r
  | '0' :: 'b' :: r => basedInteger? 2 r
  | cs =>
    let r := (splitSign cs).2
    if r = ['i', 'n', 'f'] ∨ r = ['n', 'a', 'n'] then some (.float true)
    else if r.any fun c => c = '.' || c = 'e' || c = 'E' then float? cs
    else decimalInteger? cs

/-- The value that a word denotes. -/
def ofWord? (cs : List Char) : Option Toml :=
  if cs = "true".toList then some (.bool true)
  else if cs = "false".toList then some (.bool false)
  else if isDateTime cs then some .dateTime
  else number? cs

end Toml
end JoinWizard
