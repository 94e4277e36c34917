/-
# Editing the model

What the user does to the selection, the joins, the fact table and the mode.  An operation that
changes the model publishes the gates; a join that is refused, or a join to take back that was not
declared, changes and publishes nothing.
-/

import JoinWizard.Session.Basic

namespace JoinWizard
namespace Session

/-- Selects tables of the catalog by name, in catalog order: how many were new. -/
def addTables (s : Session) (names : List String) : Turn Nat :=
  let wanted := s.catalog.tables.filter fun t => names.contains t.name
  { s with selection := s.selection.add wanted }.publish [] (s.selection.additions wanted).length

/-- Deselects tables by name, and with them their joins and a fact table among them. -/
def removeTables (s : Session) (names : List String) : Turn (List Table) :=
  match s.selection.remove names with
  | ([], _) => s.publish [] []
  | (removed, rest) =>
    { s with
      selection := rest
      joins := (s.joins.cascade rest).2
      fact := s.fact.revalidate rest }.publish [] removed

/-- Declares a join. -/
def addJoin (s : Session) (j : Join) : Turn (Except JoinError Unit) :=
  match s.joins.add j s.selection with
  | .error e => s.silently (.error e)
  | .ok joins => { s with joins }.publish [] (.ok ())

/-- Takes back a join, declared in either order: whether it was declared. -/
def removeJoin (s : Session) (j : Join) : Turn Bool :=
  if s.joins.contains j then { s with joins := s.joins.remove j }.publish [] true
  else s.silently false

/-- Chooses the fact table by name; a name that is not selected chooses none. -/
def setFact (s : Session) (name : Option String) : Turn Unit :=
  { s with fact := .ofName name s.selection }.publish [] ()

/-- Chooses the fact table by a row of the picker. -/
def pickFact (s : Session) (index : Int32) : Turn Unit :=
  { s with fact := .ofIndex index s.selection }.publish [] ()

/-- Sets the mode. -/
def setMode (s : Session) (mode : Mode) : Turn Unit := { s with mode }.publish [] ()

end Session
end JoinWizard
