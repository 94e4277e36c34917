/-
# Sessions

A session is one wizard step: the refresh of a connection, the catalog it brought, and the model
the user makes of it (a selection, joins, a fact table, a mode).

Every operation is a `Turn`: the session after it, what the host was told, in order, and a result.
The host learns of the gates by `Notice.gates`; the session remembers the pair it published last.
While the refresh has failed both gates are closed, whatever the model is.
-/

import JoinWizard.Gates
import JoinWizard.JoinGraph
import JoinWizard.Refresh
import JoinWizard.SavedConfig

namespace JoinWizard

/-- What a session tells its host. -/
inductive Notice where
  /-- The gates, as they are now. -/
  | gates (gates : Gates)
  /-- A request failed. -/
  | error (error : HostError)
  /-- Tables are awaited from now on. -/
  | showBusy
  /-- Tables are not awaited any more. -/
  | hideBusy
  deriving DecidableEq, Repr

/-- One wizard step that configures the tables and joins of a datasource. -/
structure Session where
  id : String
  refresh : Refresh
  catalog : Catalog := {}
  selection : Selection := {}
  joins : JoinGraph := {}
  fact : FactTable := {}
  mode : Mode := .flat
  /-- A saved configuration that is restored when tables it applies to arrive. -/
  pending : Option SavedConfig := none
  /-- Whether the step has been entered. -/
  activated : Bool := false
  /-- The gates the host was told last. -/
  published : Gates := .blocked
  deriving DecidableEq, Repr

/-- An operation on a session: the session after it, the notices it sent, its result. -/
structure Turn (α : Type) where
  session : Session
  notices : List Notice
  result : α

namespace Turn

variable {α β : Type}

/-- An operation followed by another one. -/
def andThen (t : Turn α) (f : Session → α → Turn β) : Turn β :=
  let next := f t.session t.result
  { next with notices := t.notices ++ next.notices }

/-- The operation with another result. -/
def map (f : α → β) (t : Turn α) : Turn β := { t with result := f t.result }

end Turn

namespace Session

/-- A session that starts on a connection, in a mode, perhaps with a configuration to restore. -/
def start (id : String) (connection : Connection) (mode : Mode) (saved : Option SavedConfig) :
    Session where
  id := id
  refresh := { connection }
  mode := mode
  pending := saved

/-- The connection the session is on. -/
def connection (s : Session) : Connection := s.refresh.connection

/-- The gates of the session as it is. -/
def gates (s : Session) : Gates :=
  if s.refresh.state = .failed then .blocked else .ofModel s.selection s.fact s.mode

/-- The chosen fact table. -/
def factTable? (s : Session) : Option Table := s.fact.table? s.selection

/-- The fact table picker's rows. -/
def factChoices (s : Session) : FactChoices := ⟨s.selection⟩

/-- The fact table picker's row for the current choice. -/
def factIndex (s : Session) : Int32 := s.factChoices.indexFor s.fact.name

/-- The tables of the catalog that are not selected, in catalog order. -/
def available (s : Session) : List Table :=
  s.catalog.tables.filter fun t => !s.selection.contains t.name

variable {α : Type}

/-- Ends an operation without telling the host anything. -/
def silently (s : Session) (result : α) : Turn α := ⟨s, [], result⟩

/-- Ends an operation by telling the host the gates, after the given notices. -/
def publish (s : Session) (before : List Notice) (result : α) : Turn α :=
  ⟨{ s with published := s.gates }, before ++ [.gates s.gates], result⟩

/-- Ends an operation by telling the host the gates only if they are not those it was told last. -/
def publishIfChanged (s : Session) (before : List Notice) (result : α) : Turn α :=
  if s.gates = s.published then ⟨s, before, result⟩ else s.publish before result

/-- The notice that tables are not awaited any more, if they were. -/
def busyEnd (s : Session) : List Notice := if s.refresh.isFetchingTables then [.hideBusy] else []

end Session

end JoinWizard
