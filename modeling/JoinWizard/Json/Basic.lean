/-
# JSON values

The value a JSON text denotes, as far as the records of this library read it.

Two kinds of literal can be well formed and still denote nothing a record can use: a number that
is no integer (a fraction, an exponent or a minus zero) and a string with an unpaired surrogate
escape.  Both are kept as `none`, so that a key nobody asks for may hold them.

A record is written as an object.  It is read from an object in any order of its keys, or from an
array of its fields in the order of their declaration (`Json.record?`).
-/

namespace JoinWizard

/-- A JSON value.  The members of an object keep their order and their repetitions. -/
inductive Json where
  | null
  | bool (value : Bool)
  /-- The integer a number literal denotes, if it denotes one. -/
  | number (value : Option Int)
  /-- The text a string literal denotes, if it denotes one. -/
  | string (value : Option String)
  | array (items : List Json)
  | object (members : List (Option String × Json))
  deriving Inhabited

namespace Json

/-- A string literal with the given text. -/
def text (s : String) : Json := .string (some s)

/-- The object with the given fields, those without a value left out. -/
def ofFields (fields : List (String × Option Json)) : Json :=
  .object (fields.filterMap fun (key, value) => value.map fun v => (some key, v))

/-- The keys of an object, if all of them are texts and no name in `names` occurs twice. -/
def keys? (names : List String) (members : List (Option String × Json)) : Option (List String) := do
  let keys ← members.mapM Prod.fst
  if names.all fun name => keys.count name ≤ 1 then some keys else none

/-- Reads a record with the fields `names`: the result gives the value written for a field, if one
is.  Keys of an object that are no field are ignored; a field given twice is refused, and so is an
array longer than the list of fields. -/
def record? (names : List String) : Json → Option (String → Option Json)
  | .object members => do
    let _ ← keys? names members
    return fun name => members.lookup (some name)
  | .array items =>
    if items.length ≤ names.length then some fun name => (names.zip items).lookup name else none
  | _ => none

/-- The name of an enumeration's case: a string, or an object with that one key and `null`. -/
def case? : Json → Option String
  | .string s => s
  | .object [(name, .null)] => name
  | _ => none

end Json

/-- Types whose values are written as JSON. -/
class JsonCodec (α : Type) where
  encode : α → Json
  decode : Json → Option α

export JsonCodec (encode decode)

namespace JsonCodec

/-- A field that must be given. -/
def required {α : Type} [JsonCodec α] (field : Option Json) : Option α := field.bind decode

/-- A field that stands for `default` when it is left out. -/
def orDefault {α : Type} [JsonCodec α] (default : α) : Option Json → Option α
  | none => some default
  | some v => decode v

/-- A field that may be left out or `null`. -/
def optional {α : Type} [JsonCodec α] : Option Json → Option (Option α)
  | none => some none
  | some .null => some none
  | some v => (decode v).map some

instance : JsonCodec Bool where
  encode := .bool
  decode
    | .bool b => some b
    | _ => none

instance : JsonCodec String where
  encode := .text
  decode
    | .string s => s
    | _ => none

instance {α : Type} [JsonCodec α] : JsonCodec (List α) where
  encode xs := .array (xs.map encode)
  decode
    | .array items => items.mapM decode
    | _ => none

/-- Whole numbers of 64 bits; a literal outside their range is refused. -/
instance : JsonCodec Int64 where
  encode n := .number (some n.toInt)
  decode
    | .number (some n) =>
      if Int64.minValue.toInt ≤ n ∧ n ≤ Int64.maxValue.toInt then some (Int64.ofInt n) else none
    | _ => none

end JsonCodec

end JoinWizard
