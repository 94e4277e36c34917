/-
# Bytes shown as text

Bytes that are to be shown need not be a text.  What is one is shown as it is.  Of the rest, every
stretch that begins a character and does not end it, and every byte that can begin none, is shown
as the replacement character `U+FFFD`.

| first byte | bytes that follow | range of the first of them |
| --- | ---: | --- |
| `C2`-`DF` | 1 | `80`-`BF` |
| `E0` | 2 | `A0`-`BF` |
| `E1`-`EC`, `EE`, `EF` | 2 | `80`-`BF` |
| `ED` | 2 | `80`-`9F` |
| `F0` | 3 | `90`-`BF` |
| `F1`-`F3` | 3 | `80`-`BF` |
| `F4` | 3 | `80`-`8F` |
-/

namespace JoinWizard
namespace Utf8

/-- How many bytes follow a first byte, and the range of the first of them. -/
def lead? (b : UInt8) : Option (Nat × UInt8 × UInt8) :=
  if 0xc2 ≤ b ∧ b ≤ 0xdf then some (1, 0x80, 0xbf)
  else if b = 0xe0 then some (2, 0xa0, 0xbf)
  else if b = 0xed then some (2, 0x80, 0x9f)
  else if 0xe1 ≤ b ∧ b ≤ 0xef then some (2, 0x80, 0xbf)
  else if b = 0xf0 then some (3, 0x90, 0xbf)
  else if b = 0xf4 then some (3, 0x80, 0x8f)
  else if 0xf1 ≤ b ∧ b ≤ 0xf3 then some (3, 0x80, 0xbf)
  else none

/-- The bytes in front that go on with a character, at most so many. -/
def tail (count : Nat) (low high : UInt8) : List UInt8 → List UInt8
  | [] => []
  | b :: rest =>
    if low ≤ b ∧ b ≤ high then
      b :: (rest.take (count - 1)).takeWhile fun b => 0x80 ≤ b ∧ b ≤ 0xbf
    else []

/-- The character of a first byte and all that follow it. -/
def charOf (first : UInt8) (tail : List UInt8) : Char :=
  let high := first.toNat % (64 >>> tail.length)
  Char.ofNat (tail.foldl (fun n b => 64 * n + b.toNat % 64) high)

/-- The characters that show bytes. -/
def chars : List UInt8 → List Char
  | [] => []
  | b :: rest =>
    if b < 0x80 then Char.ofNat b.toNat :: chars rest
    else
      match lead? b with
      | none => '\ufffd' :: chars rest
      | some (count, low, high) =>
        let following := tail count low high rest
        let c := if following.length = count then charOf b following else '\ufffd'
        c :: chars (rest.drop following.length)
termination_by bytes => bytes.length

/-- The text that shows bytes. -/
def text (bytes : List UInt8) : String := .ofList (chars bytes)

/-- The bytes of a text. -/
def bytes (text : String) : List UInt8 := text.toUTF8.data.toList

/-- The text that bytes are, if they are one. -/
def text? (bytes : List UInt8) : Option String := String.fromUTF8? ⟨bytes.toArray⟩

end Utf8
end JoinWizard
