/-
# Joins

A join pairs two endpoints, each a field of a table, both given by name.  The order of the two
records how the join was declared and nothing else: a join and its reverse are one edge
(`Join.sameEdge`).

Names compare by code point, endpoints by table and then by field.
-/

import JoinWizard.Json.Basic

namespace JoinWizard

/-- One side of a join: a field of a table, both by name. -/
structure Endpoint where
  table : String
  field : String
  deriving DecidableEq, Repr

namespace Endpoint

/-- The text `table.field`. -/
def text (e : Endpoint) : String := e.table ++ "." ++ e.field

/-- Tables decide; of one table, fields do. -/
def compare (a b : Endpoint) : Ordering :=
  (compareOfLessAndEq a.table b.table).then (compareOfLessAndEq a.field b.field)

instance : JsonCodec Endpoint where
  encode e := .ofFields [("table", some (encode e.table)), ("field", some (encode e.field))]
  decode v := do
    let field ← v.record? ["table", "field"]
    return {
      table := ← JsonCodec.required (field "table")
      field := ← JsonCodec.required (field "field") }

end Endpoint

/-- A declared join between two endpoints. -/
structure Join where
  left : Endpoint
  right : Endpoint
  deriving DecidableEq, Repr

namespace Join

/-- The join with its ends exchanged. -/
def reverse (j : Join) : Join := ⟨j.right, j.left⟩

/-- The text `table.field = table.field`. -/
def text (j : Join) : String := j.left.text ++ " = " ++ j.right.text

/-- The endpoints, the lesser one first. -/
def edgeKey (j : Join) : Endpoint × Endpoint :=
  if j.left.compare j.right = .gt then (j.right, j.left) else (j.left, j.right)

/-- Whether two joins pair the same endpoints, in either order. -/
def sameEdge (a b : Join) : Bool := a.edgeKey = b.edgeKey

/-- Whether one of the ends is a field of the given table. -/
def touches (j : Join) (table : String) : Bool := j.left.table = table || j.right.table = table

instance : JsonCodec Join where
  encode j := .ofFields [("left", some (encode j.left)), ("right", some (encode j.right))]
  decode v := do
    let field ← v.record? ["left", "right"]
    return {
      left := ← JsonCodec.required (field "left")
      right := ← JsonCodec.required (field "right") }

end Join

end JoinWizard
