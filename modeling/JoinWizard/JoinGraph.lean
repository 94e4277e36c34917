/-
# Join graphs

The joins declared so far, in the order of declaration.  A join is accepted when both endpoints
are fields of selected tables, the tables differ, and neither the join nor its reverse is declared
already; of several faults the first in this order is reported.

When the selection changes, the joins it no longer supports are dropped: after a deselection it is
enough to look at the tables of the ends (`JoinGraph.cascade`), after a change of definitions the
fields count too (`JoinGraph.cascadeFields`).
-/

import JoinWizard.Join
import JoinWizard.Selection

namespace JoinWizard

/-- Why a join is refused. -/
inductive JoinError where
  /-- The table of an endpoint is not selected. -/
  | tableNotSelected (endpoint : Endpoint)
  /-- The table of an endpoint has no such field. -/
  | fieldUnknown (endpoint : Endpoint)
  /-- Both ends are on one table. -/
  | selfJoin (table : String)
  /-- The join or its reverse is declared already. -/
  | alreadyDeclared (join : Join)
  deriving DecidableEq, Repr

namespace JoinError

/-- The text of a refusal. -/
def message : JoinError → String
  | tableNotSelected e =>
    "join endpoint " ++ e.text ++ " references a table that is not selected"
  | fieldUnknown e => "join endpoint " ++ e.text ++ " references a field the table does not have"
  | selfJoin table => "cannot join table '" ++ table ++ "' to itself"
  | alreadyDeclared j => "relationship " ++ j.text ++ " is already declared"

end JoinError

namespace Endpoint

/-- Whether the selection supports an endpoint. -/
def check (e : Endpoint) (s : Selection) : Except JoinError Unit :=
  match s.find? e.table with
  | none => .error (.tableNotSelected e)
  | some t => if t.hasField e.field then .ok () else .error (.fieldUnknown e)

/-- Whether the endpoint is a field of a selected table. -/
def isSupported (e : Endpoint) (s : Selection) : Bool :=
  (s.find? e.table).any fun t => t.hasField e.field

end Endpoint

/-- The declared joins, in the order of declaration. -/
structure JoinGraph where
  joins : List Join := []
  deriving DecidableEq, Repr

namespace JoinGraph

/-- Whether the join or its reverse is declared. -/
def contains (g : JoinGraph) (j : Join) : Bool := g.joins.any (·.sameEdge j)

/-- The number of declared joins. -/
def size (g : JoinGraph) : Nat := g.joins.length

/-- Whether no join is declared. -/
def isEmpty (g : JoinGraph) : Bool := g.joins.isEmpty

/-- Declares a join between two selected tables. -/
def add (g : JoinGraph) (j : Join) (s : Selection) : Except JoinError JoinGraph := do
  j.left.check s
  j.right.check s
  if j.left.table = j.right.table then throw (.selfJoin j.left.table)
  if g.contains j then throw (.alreadyDeclared j)
  return ⟨g.joins ++ [j]⟩

/-- Takes back a join, declared in either order. -/
def remove (g : JoinGraph) (j : Join) : JoinGraph := ⟨g.joins.filter fun e => !e.sameEdge j⟩

/-- Takes back a join: whether one went, which shows in the number of joins, and the graph that is
left. -/
def takeBack (g : JoinGraph) (j : Join) : Bool × JoinGraph :=
  ((g.remove j).size ≠ g.size, g.remove j)

/-- Splits off the joins that `keep` refuses: those joins, and the graph that is left. -/
def retain (g : JoinGraph) (keep : Join → Bool) : List Join × JoinGraph :=
  (g.joins.filter fun j => !keep j, ⟨g.joins.filter keep⟩)

/-- Drops the joins with an end on a table that is not selected. -/
def cascade (g : JoinGraph) (s : Selection) : List Join × JoinGraph :=
  g.retain fun j => s.contains j.left.table && s.contains j.right.table

/-- Drops the joins with an end that is no field of a selected table. -/
def cascadeFields (g : JoinGraph) (s : Selection) : List Join × JoinGraph :=
  g.retain fun j => j.left.isSupported s && j.right.isSupported s

/-- The joins with an end on the given table. -/
def touching (g : JoinGraph) (table : String) : List Join := g.joins.filter (·.touches table)

/-- Declares the joins one after the other, leaving out those that are refused. -/
def addAll (g : JoinGraph) (joins : List Join) (s : Selection) : JoinGraph :=
  joins.foldl (fun g j => (g.add j s).toOption.getD g) g

end JoinGraph

end JoinWizard
