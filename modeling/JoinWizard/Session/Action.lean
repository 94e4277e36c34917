/-
# Histories of a session

Everything that can be done to a session, as data: an `Action` is one call with its arguments, and
`Session.act` makes it.  A session's history is a list of actions.
-/

import JoinWizard.Session.Edit
import JoinWizard.Session.Fetch

namespace JoinWizard

/-- One thing that is done to a session. -/
inductive Action where
  | addTables (names : List String)
  | removeTables (names : List String)
  | addJoin (join : Join)
  | removeJoin (join : Join)
  | setFact (name : Option String)
  | pickFact (index : Int32)
  | setMode (mode : Mode)
  | activateForward
  | activateReverse
  | setConnection (connection : Connection)
  | selectSchema (schema : String)
  | requestSchemas
  | requestTables
  | applySchemas (response : SchemaResponse)
  | applyTables (response : TableResponse)

/-- What an action gives back. -/
inductive Reply where
  | done
  /-- How many tables were added. -/
  | added (count : Nat)
  /-- Which tables were removed. -/
  | removed (tables : List Table)
  /-- Whether a join was declared. -/
  | joined (result : Except JoinError Unit)
  /-- Whether a join was taken back. -/
  | unjoined (found : Bool)
  /-- The request for schemas that was made. -/
  | schemaTicket (ticket : SchemaTicket)
  /-- The request for tables that was made, if one was. -/
  | tableTicket (ticket : Option TableTicket)
  /-- What became of a response with schemas. -/
  | schemas (accepted : Accepted (List SchemaInfo))
  /-- What became of a response with tables. -/
  | tables (accepted : Accepted (List Table))

namespace Session

/-- Does one thing to a session. -/
def act (s : Session) : Action → Turn Reply
  | .addTables names => (s.addTables names).map .added
  | .removeTables names => (s.removeTables names).map .removed
  | .addJoin j => (s.addJoin j).map .joined
  | .removeJoin j => (s.removeJoin j).map .unjoined
  | .setFact name => (s.setFact name).map fun _ => .done
  | .pickFact index => (s.pickFact index).map fun _ => .done
  | .setMode mode => (s.setMode mode).map fun _ => .done
  | .activateForward => s.activateForward.map .tableTicket
  | .activateReverse => s.activateReverse.map fun _ => .done
  | .setConnection c => (s.setConnection c).map fun _ => .done
  | .selectSchema schema => (s.selectSchema schema).map .tableTicket
  | .requestSchemas => s.requestSchemas.map .schemaTicket
  | .requestTables => s.requestTables.map fun t => .tableTicket (some t)
  | .applySchemas response => (s.applySchemas response).map .schemas
  | .applyTables response => (s.applyTables response).map .tables

/-- The session after a history. -/
def after (s : Session) (history : List Action) : Session :=
  history.foldl (fun s a => (s.act a).session) s

end Session

end JoinWizard
