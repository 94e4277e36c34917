/-
# Store images

A store may come as an image of pages of one size.  The first page begins with a header; numbers of
several bytes have the highest byte first.

| bytes | hold |
| --- | --- |
| 0-15 | `SQLite format 3` and a zero byte |
| 16-17 | the size of a page, a power of two from 512 on; 1 for 65536 |
| 18-19 | versions for a writer and for a reader: 1, or 2 if it is always written through a log |
| 20 | how many bytes at the end of a page are not used, at least 480 being used |
| 21-23 | 64, 32, 32 |
| 24-27 | a count of changes, repeated in 92-95 |
| 28-31 | the number of pages, if the counts agree and it is not zero |

A table is a tree of pages, numbered from one.  A leaf lists the rows, an inner page the pages below
it.  A row is a list of cells, with their types before it, and goes on in pages of its own if it is
long.  The tree of the first page lists all tables, and for each the page that its tree starts from.

Two tables make a store: `meta`, which has the version under the key `version`, and `datasources`,
which has the rows.  Either may be missing.
-/

import JoinWizard.Store

namespace JoinWizard

/-- What a row holds in a column. -/
inductive Cell where
  | null
  | integer (n : Int)
  | text (s : String)
  /-- A number with a fraction, or bytes. -/
  | other
  deriving DecidableEq, Repr

namespace Cell

/-- The text of a cell. -/
def text? : Cell → Option String
  | text s => some s
  | _ => none

/-- The number of a cell. -/
def integer? : Cell → Option Int
  | integer n => some n
  | _ => none

end Cell

/-- Bytes in pages of one size. -/
structure Image where
  bytes : ByteArray
  pageSize : Nat
  /-- How many bytes of a page are used. -/
  usable : Nat

namespace Image

/-- The number that some bytes denote. -/
def number? (bytes : ByteArray) (start count : Nat) : Option Nat :=
  (List.range count).foldlM (fun n i => bytes.data[start + i]?.map fun b => 256 * n + b.toNat) 0

/-- Some bytes in a row. -/
def slice? (bytes : ByteArray) (start count : Nat) : Option ByteArray :=
  if start + count ≤ bytes.size then some (bytes.extract start (start + count)) else none

/-- The number that is written in a varying number of bytes, and where it ends.  All bytes but the
last one are at least 128, and the ninth is the last. -/
def varying? (bytes : ByteArray) (start : Nat) : Option (Nat × Nat) := go 8 start 0
where
  /-- Reads on, with at most so many bytes before the last one. -/
  go : Nat → Nat → Nat → Option (Nat × Nat)
    | 0, i, n => bytes.data[i]?.map fun b => (256 * n + b.toNat, i + 1)
    | count + 1, i, n => do
      let b ← bytes.data[i]?
      if b < 128 then some (128 * n + b.toNat, i + 1)
      else go count (i + 1) (128 * n + (b.toNat - 128))

/-- How many pages the bytes make, a last one that is cut short among them. -/
def pageCount (image : Image) : Nat := (image.bytes.size + image.pageSize - 1) / image.pageSize

/-- Where a page starts. -/
def pageStart (image : Image) (page : Nat) : Nat := (page - 1) * image.pageSize

/-- Where the tree begins in a page: in the first one, behind the header. -/
def treeStart (image : Image) (page : Nat) : Nat :=
  image.pageStart page + if page = 1 then 100 else 0

/-- So many bytes of a row that goes on in pages of its own. -/
def overflow? (image : Image) : Nat → Nat → Nat → Option ByteArray
  | 0, _, _ => none
  | fuel + 1, page, size =>
    if size = 0 then some .empty
    else if page = 0 then none
    else do
      let start := image.pageStart page
      let count := min size (image.usable - 4)
      let part ← slice? image.bytes (start + 4) count
      let rest ← image.overflow? fuel (← number? image.bytes start 4) (size - count)
      return part ++ rest

/-- The bytes of a row of a given size. -/
def payload? (image : Image) (start size : Nat) : Option ByteArray :=
  let most := image.usable - 35
  if size ≤ most then slice? image.bytes start size
  else do
    let least := (image.usable - 12) * 32 / 255 - 23
    let here := least + (size - least) % (image.usable - 4)
    let count := if here ≤ most then here else least
    let part ← slice? image.bytes start count
    let next ← number? image.bytes (start + count) 4
    let rest ← image.overflow? (image.pageCount + 1) next (size - count)
    return part ++ rest

/-- The bytes of the rows of the tree that starts from a page. -/
def payloads? (image : Image) : Nat → Nat → Option (List ByteArray)
  | 0, _ => none
  | fuel + 1, page =>
    if page = 0 then none
    else do
      let start := image.treeStart page
      let kind ← number? image.bytes start 1
      let count ← number? image.bytes (start + 3) 2
      let entries (offset : Nat) : Option (List Nat) := (List.range count).mapM fun i =>
        (number? image.bytes (start + offset + 2 * i) 2).map (image.pageStart page + ·)
      if kind = 13 then
        (← entries 8).mapM fun entry => do
          let (size, entry) ← varying? image.bytes entry
          let (_, entry) ← varying? image.bytes entry
          image.payload? entry size
      else if kind = 5 then
        let below ← (← entries 12).mapM fun entry => number? image.bytes entry 4
        let last ← number? image.bytes (start + 8) 4
        return (← (below ++ [last]).mapM (image.payloads? fuel)).flatten
      else none

/-- The types of a row's cells. -/
def types? (payload : ByteArray) (stop : Nat) : Nat → Nat → Option (List Nat)
  | 0, _ => none
  | fuel + 1, start =>
    if start ≥ stop then some []
    else do
      let (type, start) ← varying? payload start
      return type :: (← types? payload stop fuel start)

/-- A number of some bytes, of which the highest bit is the sign. -/
def signed? (payload : ByteArray) (start count : Nat) : Option Int :=
  (number? payload start count).map fun n =>
    if n < 1 <<< (8 * count - 1) then (n : Int) else (n : Int) - Int.ofNat (1 <<< (8 * count))

/-- The cell of a type, and where it ends. -/
def cell? (payload : ByteArray) (start type : Nat) : Option (Cell × Nat) :=
  let integer (count : Nat) : Option (Cell × Nat) :=
    (signed? payload start count).map fun n => (.integer n, start + count)
  match type with
  | 0 => some (.null, start)
  | 1 => integer 1
  | 2 => integer 2
  | 3 => integer 3
  | 4 => integer 4
  | 5 => integer 6
  | 6 => integer 8
  | 7 => some (.other, start + 8)
  | 8 => some (.integer 0, start)
  | 9 => some (.integer 1, start)
  | type =>
    if type < 12 then none
    else do
      let count := (type - 12) / 2
      let bytes ← slice? payload start count
      let cell := if type % 2 = 0 then .other else (String.fromUTF8? bytes).elim .other .text
      return (cell, start + count)

/-- The cells of a row. -/
def cells? (payload : ByteArray) : Option (List Cell) := do
  let (stop, start) ← varying? payload 0
  let types ← types? payload stop (payload.size + 1) start
  let step (read : List Cell × Nat) (type : Nat) : Option (List Cell × Nat) := do
    let (cell, start) ← cell? payload read.2 type
    return (read.1 ++ [cell], start)
  return (← types.foldlM step ([], stop)).1

/-- A row with the names of its columns. -/
abbrev Row := List (String × Cell)

/-- The rows of the tree that starts from a page. -/
def rows? (image : Image) (columns : List String) (page : Nat) : Option (List Row) := do
  (← image.payloads? (image.pageCount + 1) page).mapM fun payload => do
    return columns.zip (← cells? payload)

/-- The first words between the commas in a table's definition, in small letters: the names of its
columns. -/
def columnsOf (definition : String) : List String :=
  let isPart (c : Char) : Bool := c.isAlphanum || c = '_'
  let inside := (definition.toList.dropWhile (· ≠ '(')).drop 1
  (inside.splitOn ',').map fun column =>
    (String.ofList ((column.dropWhile fun c => !isPart c).takeWhile isPart)).toLower

/-- The rows of a table, if there is one of that name. -/
def table? (image : Image) (name : String) : Option (List Row) := do
  let tables ← image.rows? ["type", "name", "table", "page", "definition"] 1
  let isWanted (row : Row) : Bool :=
    row.lookup "type" = some (.text "table") &&
      ((row.lookup "name").bind Cell.text?).any fun key => key.toLower = name
  match tables.find? isWanted with
  | none => return []
  | some row =>
    let page ← (row.lookup "page").bind Cell.integer?
    let definition ← (row.lookup "definition").bind Cell.text?
    image.rows? (columnsOf definition) page.toNat

/-- The store of an image. -/
def store? (image : Image) : Option Store := do
  let version := (← image.table? "meta").findSome? fun row =>
    if row.lookup "key" = some (.text "version") then (row.lookup "value").bind Cell.text? else none
  let step (rows : NameMap StoreRow) (row : Row) : Option (NameMap StoreRow) := do
    let text (column : String) : Option String := (row.lookup column).bind Cell.text?
    let context ← text "context"
    let config ← text "config"
    let properties ← text "properties"
    let updatedAt := Int64.ofInt (← (row.lookup "updated_at").bind Cell.integer?)
    return rows.insert (← text "name") { context, config, properties, updatedAt }
  return { version, rows := ← (← image.table? "datasources").foldlM step .empty }

/-- Whether bytes begin as every image does. -/
def hasMagic (bytes : ByteArray) : Bool :=
  (bytes.extract 0 16).data.toList = Utf8.bytes "SQLite format 3\x00"

/-- The image that bytes are, by their header. -/
def ofBytes? (bytes : ByteArray) : Option Image := do
  let size ← number? bytes 16 2
  let reader ← number? bytes 19 1
  let unused ← number? bytes 20 1
  let pageSize := if size = 1 then 65536 else size
  let isSize := pageSize ≥ 512 && pageSize &&& (pageSize - 1) = 0
  if hasMagic bytes ∧ reader ≤ 2 ∧ isSize ∧ unused + 480 ≤ pageSize ∧
      number? bytes 21 3 = some 0x402020 then
    some { bytes, pageSize, usable := pageSize - unused }
  else none

/-- Whether an image is always written through a log. -/
def isLogged (image : Image) : Bool := number? image.bytes 19 1 = some 2

/-- Whether an image has all the pages that its header counts. -/
def isWhole (image : Image) : Bool :=
  let isCounted := number? image.bytes 24 4 = number? image.bytes 92 4
  !isCounted || (number? image.bytes 28 4).all (· ≤ image.pageCount)

end Image

namespace Store

/-- The store that the bytes of a file hold.  None or a single one are a new store. -/
def ofBytes (bytes : ByteArray) : Except StoreError Store :=
  if bytes.size ≤ 1 then .ok {}
  else
    match Image.ofBytes? bytes with
    | none => .error .notAStore
    | some image =>
      match if image.isWhole then image.store? else none with
      | some s => .ok s
      | none => .error .damaged

end Store

end JoinWizard
