/-
# A session does not look at its numbers

Two things about a session are arbitrary: its id, and how many generations there were before.  A
session shifted to another id and to later generations does to shifted responses what it does to
the responses as they are, shifts the tickets it hands out, and tells the host the same
(`Session.act_shift`).

| shifted | what changes |
| --- | --- |
| a session | its id, and the generation of its refresh |
| a response, a ticket | its generation |
| what the host is told | nothing |

That is because a generation is only ever compared with another one or counted up by one.
-/

import JoinWizard.Proofs.Session.Dialogue

namespace JoinWizard

/-- The request for schemas as it is made a number of generations later. -/
def SchemaTicket.shift (k : Nat) (t : SchemaTicket) : SchemaTicket :=
  { t with generation := t.generation + k }

/-- The request for tables as it is made a number of generations later. -/
def TableTicket.shift (k : Nat) (t : TableTicket) : TableTicket :=
  { t with generation := t.generation + k }

/-- The response to a request for schemas that is made a number of generations later. -/
def SchemaResponse.shift (k : Nat) (response : SchemaResponse) : SchemaResponse :=
  { response with generation := response.generation + k }

/-- The response to a request for tables that is made a number of generations later. -/
def TableResponse.shift (k : Nat) (response : TableResponse) : TableResponse :=
  { response with generation := response.generation + k }

/-- The ticket as it is issued a number of generations later. -/
def Ticket.shift (k : Nat) : Ticket → Ticket
  | schemas t => schemas (t.shift k)
  | tables t => tables (t.shift k)

/-- The action with a response to a ticket that is issued a number of generations later. -/
def Action.shift (k : Nat) : Action → Action
  | applySchemas response => applySchemas (response.shift k)
  | applyTables response => applyTables (response.shift k)
  | action => action

/-- The reply with a ticket that is issued a number of generations later. -/
def Reply.shift (k : Nat) : Reply → Reply
  | schemaTicket t => schemaTicket (t.shift k)
  | tableTicket t => tableTicket (t.map (TableTicket.shift k))
  | reply => reply

theorem Action.shift_of_isOwn {a : Action} (ha : a.isOwn) (k : Nat) : a.shift k = a := by
  cases a <;> first | rfl | cases ha

theorem Reply.ticket?_shift (k : Nat) (reply : Reply) :
    (reply.shift k).ticket? = reply.ticket?.map (Ticket.shift k) := by
  cases reply with
  | tableTicket t => cases t <;> rfl
  | _ => rfl

namespace Refresh

variable {k : Nat}

/-- The refresh a number of generations later. -/
def shift (k : Nat) (r : Refresh) : Refresh := { r with generation := r.generation + k }

theorem isCurrent_shift (r : Refresh) (k generation : Nat) :
    (r.shift k).isCurrent (generation + k) = r.isCurrent generation :=
  decide_eq_decide.2 Nat.add_right_cancel_iff

theorem isFetchingTables_shift (r : Refresh) (k : Nat) :
    (r.shift k).isFetchingTables = r.isFetchingTables := rfl

theorem setConnection_shift (r : Refresh) (k : Nat) (connection : Connection) :
    (r.shift k).setConnection connection = (r.setConnection connection).shift k :=
  congrArg (fun g => ({ connection, generation := g } : Refresh)) (Nat.add_right_comm ..)

theorem requestSchemas_shift (r : Refresh) (k : Nat) :
    (r.shift k).requestSchemas =
      (r.requestSchemas.1.shift k, r.requestSchemas.2.shift k) := by
  simp only [requestSchemas, shift, SchemaTicket.shift, Nat.add_right_comm _ k 1]

theorem requestTables_shift (r : Refresh) (k : Nat) (schema : Option String) :
    (r.shift k).requestTables schema =
      ((r.requestTables schema).1.shift k, (r.requestTables schema).2.shift k) := by
  simp only [requestTables, shift, TableTicket.shift, Nat.add_right_comm _ k 1]

theorem selectSchema_shift (r : Refresh) (k : Nat) (schema : String) :
    (r.shift k).selectSchema schema = (r.selectSchema schema).shift k := by
  unfold selectSchema
  rw [isFetchingTables_shift]
  split
  · simp only [shift, Nat.add_right_comm _ k 1]
    rfl
  · rfl

theorem acceptSchemas_shift (r : Refresh) (k : Nat) (response : SchemaResponse) :
    (r.shift k).acceptSchemas (response.shift k) =
      ((r.acceptSchemas response).1.shift k, (r.acceptSchemas response).2) := by
  unfold acceptSchemas SchemaResponse.shift
  dsimp only
  rw [isCurrent_shift]
  split
  · cases response.result <;> rfl
  · rfl

theorem acceptTables_shift (r : Refresh) (k : Nat) (response : TableResponse) :
    (r.shift k).acceptTables (response.shift k) =
      ((r.acceptTables response).1.shift k, (r.acceptTables response).2) := by
  unfold acceptTables TableResponse.shift
  dsimp only
  rw [isCurrent_shift]
  split
  · cases response.result <;> rfl
  · rfl

end Refresh

namespace Session

/-- The session under another id and a number of generations later. -/
def shift (id : String) (k : Nat) (s : Session) : Session :=
  { s with id, refresh := s.refresh.shift k }

end Session

/-- The turn of a session under another id and a number of generations later. -/
def Turn.shift {α : Type} (id : String) (k : Nat) (t : Turn α) : Turn α :=
  { t with session := t.session.shift id k }

theorem Turn.andThen_shift {α β : Type} {id : String} {k : Nat} {t : Turn α}
    {f : Session → α → Turn β} {g : β → β}
    (h : f (t.session.shift id k) t.result = ((f t.session t.result).shift id k).map g) :
    (t.shift id k).andThen f = ((t.andThen f).shift id k).map g := by
  unfold andThen
  rw [show (t.shift id k).session = t.session.shift id k from rfl,
    show (t.shift id k).result = t.result from rfl, h]
  rfl

namespace Session

variable {α : Type} (id : String) (k : Nat) (s : Session)

theorem refresh_shift : (s.shift id k).refresh = s.refresh.shift k := rfl

theorem catalog_shift : (s.shift id k).catalog = s.catalog := rfl

theorem selection_shift : (s.shift id k).selection = s.selection := rfl

theorem joins_shift : (s.shift id k).joins = s.joins := rfl

theorem pending_shift : (s.shift id k).pending = s.pending := rfl

theorem activated_shift : (s.shift id k).activated = s.activated := rfl

theorem gates_shift : (s.shift id k).gates = s.gates := rfl

theorem published_shift : (s.shift id k).published = s.published := rfl

theorem publishIfChanged_shift (before : List Notice) (result : α) :
    (s.shift id k).publishIfChanged before result =
      (s.publishIfChanged before result).shift id k := by
  unfold publishIfChanged
  rw [gates_shift, published_shift]
  split <;> rfl

/-! ## Edits -/

theorem removeTables_shift (names : List String) :
    (s.shift id k).removeTables names = (s.removeTables names).shift id k := by
  unfold removeTables
  rw [selection_shift]
  rcases s.selection.remove names with ⟨_ | _, rest⟩ <;> rfl

theorem addJoin_shift (j : Join) : (s.shift id k).addJoin j = (s.addJoin j).shift id k := by
  unfold addJoin
  rw [joins_shift, selection_shift]
  cases s.joins.add j s.selection <;> rfl

theorem removeJoin_shift (j : Join) :
    (s.shift id k).removeJoin j = (s.removeJoin j).shift id k := by
  unfold removeJoin
  rw [joins_shift]
  split <;> rfl

/-! ## Requests -/

theorem setConnection_shift (connection : Connection) :
    (s.shift id k).setConnection connection = (s.setConnection connection).shift id k := by
  unfold setConnection
  rw [refresh_shift, Refresh.setConnection_shift]
  rfl

theorem publishIfChanged_map {β : Type} (before : List Notice) (f : α → β) (result : α) :
    (s.publishIfChanged before result).map f = s.publishIfChanged before (f result) := by
  unfold publishIfChanged
  split <;> rfl

theorem requestSchemas_shift :
    (s.shift id k).requestSchemas =
      (s.requestSchemas.shift id k).map (SchemaTicket.shift k) := by
  have hrefresh := s.refresh.requestSchemas_shift k
  unfold requestSchemas
  rw [refresh_shift, hrefresh]
  dsimp only
  rw [← publishIfChanged_shift, publishIfChanged_map]
  rfl

theorem requestTablesOf_shift (schema : Option String) :
    (s.shift id k).requestTablesOf schema =
      ((s.requestTablesOf schema).shift id k).map (TableTicket.shift k) := by
  have hrefresh := s.refresh.requestTables_shift k schema
  unfold requestTablesOf
  rw [refresh_shift, hrefresh]
  dsimp only
  rw [← publishIfChanged_shift, publishIfChanged_map]
  rfl

theorem activateForward_shift :
    (s.shift id k).activateForward =
      (s.activateForward.shift id k).map
        (Option.map (TableTicket.shift k)) := by
  refine Turn.andThen_shift (t := ({ s with activated := true } : Session).publish [] ()) ?_
  set u := (({ s with activated := true } : Session).publish [] ()).session
  by_cases h : (u.catalog.isEmpty && !u.refresh.state.isFetching) = true
  · rw [if_pos h]
    refine (if_pos h).trans ?_
    rw [requestTables, requestTablesOf_shift]
    rfl
  · rw [if_neg h]
    exact if_neg h

theorem selectSchema_shift (schema : String) :
    (s.shift id k).selectSchema schema =
      ((s.selectSchema schema).shift id k).map
        (Option.map (TableTicket.shift k)) := by
  unfold selectSchema
  rw [activated_shift]
  split
  · rw [requestTablesOf_shift]
    rfl
  · rw [refresh_shift, Refresh.selectSchema_shift]
    rfl

/-! ## Responses -/

theorem applySchemas_shift (response : SchemaResponse) :
    (s.shift id k).applySchemas (response.shift k) =
      (s.applySchemas response).shift id k := by
  unfold applySchemas
  rw [refresh_shift, Refresh.acceptSchemas_shift]
  dsimp only
  split <;> rfl

theorem restorePending_shift : (s.shift id k).restorePending = s.restorePending.shift id k := by
  unfold restorePending
  rw [pending_shift]
  cases s.pending with
  | none => rfl
  | some config =>
    dsimp only
    rw [catalog_shift]
    split <;> rfl

theorem applyTables_shift (response : TableResponse) :
    (s.shift id k).applyTables (response.shift k) =
      (s.applyTables response).shift id k := by
  unfold applyTables
  rw [refresh_shift, Refresh.acceptTables_shift]
  dsimp only
  split
  · rfl
  · rfl
  · next tables _ =>
    have hrestore := restorePending_shift id k
      (({ s with refresh := (s.refresh.acceptTables response).1 } : Session).installCatalog
        (.ofTables (schemaLabel response.schema tables) tables))
    exact congrArg (fun u : Session => u.publish [.hideBusy] (Accepted.current tables)) hrestore

/-! ## Actions -/

/-- **A session does not look at its numbers:** what it does under another id and a number of
generations later is what it does, under that id and those generations later. -/
theorem act_shift (a : Action) :
    (s.shift id k).act (a.shift k) = ((s.act a).shift id k).map (Reply.shift k) := by
  cases a with
  | addTables names => rfl
  | removeTables names => exact congrArg (Turn.map Reply.removed) (s.removeTables_shift id k names)
  | addJoin j => exact congrArg (Turn.map Reply.joined) (s.addJoin_shift id k j)
  | removeJoin j => exact congrArg (Turn.map Reply.unjoined) (s.removeJoin_shift id k j)
  | setFact name => rfl
  | pickFact index => rfl
  | setMode mode => rfl
  | activateForward => exact congrArg (Turn.map Reply.tableTicket) (s.activateForward_shift id k)
  | activateReverse => rfl
  | setConnection connection =>
    exact congrArg (Turn.map fun _ => Reply.done) (s.setConnection_shift id k connection)
  | selectSchema schema =>
    exact congrArg (Turn.map Reply.tableTicket) (s.selectSchema_shift id k schema)
  | requestSchemas => exact congrArg (Turn.map Reply.schemaTicket) (s.requestSchemas_shift id k)
  | requestTables =>
    exact congrArg (Turn.map fun t => Reply.tableTicket (some t))
      (s.requestTablesOf_shift id k none)
  | applySchemas response =>
    exact congrArg (Turn.map Reply.schemas) (s.applySchemas_shift id k response)
  | applyTables response =>
    exact congrArg (Turn.map Reply.tables) (s.applyTables_shift id k response)

end Session
end JoinWizard
