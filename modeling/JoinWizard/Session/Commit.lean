/-
# Committing a session

A commit hands a snapshot of the session to a sink.  It is refused while both gates are closed, and
then the sink does not see it; the sink may refuse it too.  The session itself stays as it is.
-/

import JoinWizard.Session.Basic
import JoinWizard.Store

namespace JoinWizard

/-- Why a commit does not take place. -/
inductive CommitError where
  /-- Both gates are closed. -/
  | notReady (gates : Gates)
  /-- The sink refuses it. -/
  | rejected (reason : String)
  /-- The store fails. -/
  | store (cause : StoreError)
  deriving DecidableEq, Repr

namespace CommitError

/-- The text of a refusal. -/
def message : CommitError → String
  | notReady gates =>
    "join configuration is not complete (valid: " ++ toString gates.valid ++ ", finishable: " ++
      toString gates.finishable ++ ")"
  | rejected reason => "commit rejected: " ++ reason
  | store cause => "failed to store configuration: " ++ cause.message

end CommitError

/-- Where committed snapshots go. -/
inductive CommitSink where
  /-- A list of them, the latest last. -/
  | memory (snapshots : List Snapshot)
  /-- Nowhere: each is refused, for the same reason. -/
  | rejecting (reason : String)
  /-- A datasource store. -/
  | store (store : Store)

namespace CommitSink

/-- Takes in a snapshot at the given time. -/
def accept (sink : CommitSink) (now : Int64) (snapshot : Snapshot) :
    Except CommitError CommitSink :=
  match sink with
  | memory snapshots => .ok (.memory (snapshots ++ [snapshot]))
  | rejecting reason => .error (.rejected reason)
  | store s => .ok (.store (s.commit snapshot now))

end CommitSink

namespace Session

/-- The configuration of a session, to be committed under a name. -/
def snapshot (s : Session) (name : String) : Snapshot where
  name := name
  sessionId := s.id
  context := s.connection.context
  connection := s.connection.name
  schema := s.catalog.schema
  mode := s.mode
  tables := s.selection.tables
  joins := s.joins.joins
  factTable := s.fact.name

/-- Commits a session under a name: the snapshot the sink took in, and the sink after it. -/
def commit (s : Session) (sink : CommitSink) (now : Int64) (name : String) :
    Except CommitError (Snapshot × CommitSink) :=
  if s.gates.canComplete then
    (sink.accept now (s.snapshot name)).map fun sink => (s.snapshot name, sink)
  else .error (.notReady s.gates)

end Session

end JoinWizard
