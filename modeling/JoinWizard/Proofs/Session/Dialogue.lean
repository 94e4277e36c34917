/-
# A session and its source

A *dialogue* is a session together with the tickets it has issued, in the order of their issue.  A
*move* is one thing that is done to it: an action of the host's own, or a response to the ticket at
some place of that order.  A response carries the generation of its ticket and whatever else the
source put into it; it may come late, come again, or never come.

```text
  host    ── edits, requests, a schema, a connection ──►  session  ──► tickets 0, 1, 2, …
  source  ── responses to ticket 1, ticket 0, ticket 1 ──►   │
                                                             └──► host: gates, errors, busy
```

Of what an own action does to the refresh there are five kinds (`Asks`).  From them follows what
the generations of the tickets are at any time (`Dialogue.Stamped`): they grow in the order of
issue, none is of a time to come, and the ticket of the current generation, if there is one, is for
the connection the session is on.
-/

import JoinWizard.Proofs.Refresh.Acceptance
import JoinWizard.Proofs.Session.Consistent

namespace JoinWizard

/-- The connection the request was made for. -/
def Ticket.connection : Ticket → Connection
  | schemas t => t.connection
  | tables t => t.connection

/-- Whether an action is the host's own, that is, takes in no response. -/
def Action.isOwn : Action → Bool
  | applySchemas _ | applyTables _ => false
  | _ => true

theorem Action.isOwn_requestTables : requestTables.isOwn := rfl

/-- The ticket a reply hands out, if it hands out one. -/
def Reply.ticket? : Reply → Option Ticket
  | schemaTicket t => some (.schemas t)
  | tableTicket t => t.map .tables
  | _ => none

/-- One thing that is done to a session and its tickets. -/
inductive Move where
  /-- The host does something. -/
  | own (action : Action) (isOwn : action.isOwn)
  /-- A response to a ticket for schemas. -/
  | schemas (ticket : Nat) (connection : String) (result : Except SourceError (List SchemaInfo))
  /-- A response to a ticket for tables. -/
  | tables (ticket : Nat) (schema : String) (result : Except SourceError (List Table))

/-- The host turns to another connection. -/
def Move.switch (connection : Connection) : Move := .own (.setConnection connection) rfl

/-- A session and the tickets it has issued, the oldest first. -/
structure Dialogue where
  session : Session
  tickets : List Ticket := []

namespace Dialogue

/-- A dialogue with a session that starts. -/
def start (id : String) (connection : Connection) (mode : Mode) (saved : Option SavedConfig) :
    Dialogue := { session := .start id connection mode saved }

/-- What a move does to the session.  A response to no ticket, or one of another kind, is lost. -/
def action? (x : Dialogue) : Move → Option Action
  | .own action _ => some action
  | .schemas n connection result =>
    match x.tickets[n]? with
    | some (.schemas t) => some (.applySchemas ⟨t.generation, connection, result⟩)
    | _ => none
  | .tables n schema result =>
    match x.tickets[n]? with
    | some (.tables t) => some (.applyTables ⟨t.generation, schema, result⟩)
    | _ => none

/-- One move: the session after it, what the host was told, what was given back. -/
def turn (x : Dialogue) (m : Move) : Turn (Option Reply) :=
  match x.action? m with
  | some action => (x.session.act action).map some
  | none => x.session.silently none

/-- The dialogue after one move. -/
def step (x : Dialogue) (m : Move) : Dialogue :=
  ⟨(x.turn m).session, x.tickets ++ ((x.turn m).result.bind Reply.ticket?).toList⟩

/-- The dialogue after some moves. -/
def after (x : Dialogue) (history : List Move) : Dialogue := history.foldl step x

/-- Everything the host is told over some moves, in order. -/
def noticesOf (x : Dialogue) : List Move → List Notice
  | [] => []
  | m :: history => (x.turn m).notices ++ (x.step m).noticesOf history

/-- Whether some moves lead to a dialogue from a start. -/
def Reachable (x : Dialogue) : Prop :=
  ∃ id connection mode saved history, x = (start id connection mode saved).after history

variable {x : Dialogue} {history : List Move} {m : Move} {n : Nat}

theorem after_append (x : Dialogue) (before since : List Move) :
    x.after (before ++ since) = (x.after before).after since := List.foldl_append

@[simp] theorem after_snoc (x : Dialogue) (history : List Move) (m : Move) :
    x.after (history ++ [m]) = (x.after history).step m := after_append x history [m]

/-- The places of a history that is one move longer: the new move, and the places there were. -/
theorem snoc_eq_split_iff {e : Move} {before since : List Move} :
    history ++ [m] = before ++ e :: since ↔
      (history = before ∧ m = e ∧ since = []) ∨
        ∃ since', since = since' ++ [m] ∧ history = before ++ e :: since' := by
  constructor
  · intro h
    rcases List.eq_nil_or_concat since with rfl | ⟨since', m', rfl⟩
    · obtain ⟨rfl, he⟩ := List.append_inj' h rfl
      exact .inl ⟨rfl, (List.cons.inj he).1, rfl⟩
    · rw [List.concat_eq_append, ← List.cons_append, ← List.append_assoc] at h
      obtain ⟨rfl, he⟩ := List.append_inj' h rfl
      rw [(List.cons.inj he).1, List.concat_eq_append]
      exact .inr ⟨since', rfl, rfl⟩
  · rintro (⟨rfl, rfl, rfl⟩ | ⟨since', rfl, rfl⟩)
    · rfl
    · rw [List.append_assoc, List.cons_append]

theorem noticesOf_snoc (x : Dialogue) (history : List Move) (m : Move) :
    x.noticesOf (history ++ [m]) = x.noticesOf history ++ ((x.after history).turn m).notices := by
  induction history generalizing x with
  | nil => exact List.append_nil _
  | cons e history ih =>
    rw [List.cons_append, noticesOf, noticesOf, ih (x.step e), List.append_assoc]
    rfl

/-- Tickets are issued and never taken back. -/
theorem tickets_grow (x : Dialogue) (history : List Move) :
    x.tickets <+: (x.after history).tickets := by
  induction history generalizing x with
  | nil => exact List.prefix_refl _
  | cons m history ih => exact (List.prefix_append _ _).trans (ih (x.step m))

/-- A ticket keeps its place. -/
theorem ticket_after {t : Ticket} (h : x.tickets[n]? = some t) (history : List Move) :
    (x.after history).tickets[n]? = some t := by
  obtain ⟨hlt, -⟩ := List.getElem?_eq_some_iff.1 h
  obtain ⟨more, hmore⟩ := x.tickets_grow history
  rw [← hmore, List.getElem?_append_left hlt, h]

/-! ## The kinds of moves -/

theorem turn_lost (h : x.action? m = none) : x.turn m = x.session.silently none := by
  rw [turn, h]

theorem turn_schemas {t : SchemaTicket} (ht : x.tickets[n]? = some (.schemas t))
    (connection : String) (result : Except SourceError (List SchemaInfo)) :
    x.turn (.schemas n connection result) =
      (x.session.applySchemas ⟨t.generation, connection, result⟩).map (some ∘ .schemas) := by
  rw [turn, action?, ht]
  rfl

theorem turn_tables {t : TableTicket} (ht : x.tickets[n]? = some (.tables t))
    (schema : String) (result : Except SourceError (List Table)) :
    x.turn (.tables n schema result) =
      (x.session.applyTables ⟨t.generation, schema, result⟩).map (some ∘ .tables) := by
  rw [turn, action?, ht]
  rfl

theorem step_lost (h : x.action? m = none) : x.step m = x := by
  rw [step, turn_lost h]
  exact congrArg (Dialogue.mk x.session) (List.append_nil _)

theorem step_schemas {t : SchemaTicket} (ht : x.tickets[n]? = some (.schemas t))
    (connection : String) (result : Except SourceError (List SchemaInfo)) :
    x.step (.schemas n connection result) =
      ⟨(x.session.applySchemas ⟨t.generation, connection, result⟩).session, x.tickets⟩ := by
  rw [step, turn_schemas ht]
  exact congrArg (Dialogue.mk _) (List.append_nil _)

theorem step_tables {t : TableTicket} (ht : x.tickets[n]? = some (.tables t))
    (schema : String) (result : Except SourceError (List Table)) :
    x.step (.tables n schema result) =
      ⟨(x.session.applyTables ⟨t.generation, schema, result⟩).session, x.tickets⟩ := by
  rw [step, turn_tables ht]
  exact congrArg (Dialogue.mk _) (List.append_nil _)

/-- What a move can be to a dialogue: lost, an own action, or a response to a ticket of its kind. -/
inductive Heard (x : Dialogue) : Move → Prop
  | lost {m : Move} (h : x.action? m = none) : Heard x m
  | own (action : Action) (isOwn : action.isOwn) : Heard x (.own action isOwn)
  | schemas {n : Nat} {t : SchemaTicket} (ht : x.tickets[n]? = some (.schemas t))
    (connection : String) (result : Except SourceError (List SchemaInfo)) :
    Heard x (.schemas n connection result)
  | tables {n : Nat} {t : TableTicket} (ht : x.tickets[n]? = some (.tables t))
    (schema : String) (result : Except SourceError (List Table)) :
    Heard x (.tables n schema result)

theorem heard (x : Dialogue) (m : Move) : Heard x m := by
  cases m with
  | own action isOwn => exact .own action isOwn
  | schemas n connection result =>
    match ht : x.tickets[n]? with
    | some (.schemas t) => exact .schemas ht connection result
    | some (.tables t) => exact .lost (by rw [action?, ht])
    | none => exact .lost (by rw [action?, ht])
  | tables n schema result =>
    match ht : x.tickets[n]? with
    | some (.schemas t) => exact .lost (by rw [action?, ht])
    | some (.tables t) => exact .tables ht schema result
    | none => exact .lost (by rw [action?, ht])

end Dialogue

/-! ## What an own action asks for -/

namespace Notice

/-- Whether a notice is of awaited tables. -/
def isBusy : Notice → Bool
  | showBusy | hideBusy => true
  | gates _ | error _ => false

/-- The notices of awaited tables among some notices, in order. -/
def busyOf (notices : List Notice) : List Notice := notices.filter isBusy

theorem busyOf_append (ms ns : List Notice) : busyOf (ms ++ ns) = busyOf ms ++ busyOf ns :=
  List.filter_append ..

end Notice

open Notice

namespace Session

variable {α : Type} (s : Session) (before : List Notice) (result : α)

theorem busyOf_publish : busyOf (s.publish before result).notices = busyOf before :=
  (busyOf_append ..).trans (List.append_nil _)

theorem busyOf_publishIfChanged :
    busyOf (s.publishIfChanged before result).notices = busyOf before := by
  unfold publishIfChanged
  split
  · rfl
  · exact s.busyOf_publish before result

/-- Whether or not the host is told of the gates, they are those published last. -/
theorem session_publishIfChanged :
    (s.publishIfChanged before result).session = { s with published := s.gates } := by
  unfold publishIfChanged
  split
  · next h => rw [h]
  · rfl

theorem result_publishIfChanged : (s.publishIfChanged before result).result = result := by
  unfold publishIfChanged
  split <;> rfl

theorem busyOf_busyEnd : busyOf s.busyEnd = s.busyEnd := by
  unfold busyEnd
  split <;> rfl

end Session

/-- What an own action does to the refresh of a session: the refresh after it, the ticket it hands
out, and what the host is told of awaited tables. -/
inductive Asks (s : Session) (a : Action) : Refresh → Option Ticket → List Notice → Prop
  /-- It leaves the refresh alone. -/
  | nothing : Asks s a s.refresh none []
  /-- It asks for the schemas. -/
  | schemas :
    Asks s a s.refresh.requestSchemas.1 (some (.schemas s.refresh.requestSchemas.2)) s.busyEnd
  /-- It asks for tables. -/
  | tables (schema : Option String) :
    Asks s a (s.refresh.requestTables schema).1 (some (.tables (s.refresh.requestTables schema).2))
      [.showBusy]
  /-- It selects a schema and asks for nothing. -/
  | select (schema : String) : Asks s a (s.refresh.selectSchema schema) none s.busyEnd
  /-- It is a switch of the connection. -/
  | switch (connection : Connection) (h : a = .setConnection connection) :
    Asks s a (s.refresh.setConnection connection) none s.busyEnd

namespace Session

variable {s : Session}

/-- A turn that leaves the refresh alone, hands out nothing and tells the host only of the gates. -/
theorem asks_nothing {a : Action} {t : Turn Reply} (hr : t.session.refresh = s.refresh)
    (ht : t.result.ticket? = none) (hb : busyOf t.notices = []) :
    Asks s a t.session.refresh t.result.ticket? (busyOf t.notices) := by
  rw [hr, ht, hb]
  exact .nothing

theorem refresh_requestTablesOf (s : Session) (schema : Option String) :
    (s.requestTablesOf schema).session.refresh = (s.refresh.requestTables schema).1 :=
  congrArg Session.refresh (session_publishIfChanged ..)

theorem result_requestTablesOf (s : Session) (schema : Option String) :
    (s.requestTablesOf schema).result = (s.refresh.requestTables schema).2 :=
  result_publishIfChanged ..

theorem busyOf_requestTablesOf (s : Session) (schema : Option String) :
    busyOf (s.requestTablesOf schema).notices = [.showBusy] :=
  busyOf_publishIfChanged ..

theorem asks_requestTablesOf (s : Session) (a : Action) (schema : Option String) :
    Asks s a (s.requestTablesOf schema).session.refresh
      (some (.tables (s.requestTablesOf schema).result))
      (busyOf (s.requestTablesOf schema).notices) := by
  rw [refresh_requestTablesOf, result_requestTablesOf, busyOf_requestTablesOf]
  exact .tables schema

theorem asks_activateForward (s : Session) (a : Action) :
    Asks s a s.activateForward.session.refresh (s.activateForward.result.map .tables)
      (busyOf s.activateForward.notices) := by
  set p := ({ s with activated := true } : Session).publish [] () with hp
  unfold activateForward Turn.andThen
  rw [← hp]
  dsimp only
  split
  · -- The notices of the request follow the gates, which are not of awaited tables.
    have hbusy : busyOf (p.notices ++ (p.session.requestTablesOf none).notices) = [.showBusy] := by
      rw [busyOf_append, busyOf_requestTablesOf]
      rfl
    show Asks s a (p.session.requestTablesOf none).session.refresh
      (some (.tables (p.session.requestTablesOf none).result)) (busyOf _)
    rw [refresh_requestTablesOf, result_requestTablesOf]
    exact hbusy ▸ Asks.tables none
  · exact .nothing

/-- **An own action asks for one thing at most.** -/
theorem asks_act (s : Session) {a : Action} (ha : a.isOwn) :
    Asks s a (s.act a).session.refresh (s.act a).result.ticket? (busyOf (s.act a).notices) := by
  cases a with
  | addTables names => exact .nothing
  | removeTables names =>
    refine asks_nothing ?_ rfl ?_
    · show (s.removeTables names).session.refresh = _
      unfold removeTables
      split <;> rfl
    · show busyOf (s.removeTables names).notices = _
      unfold removeTables
      split <;> rfl
  | addJoin j =>
    refine asks_nothing ?_ rfl ?_
    · show (s.addJoin j).session.refresh = _
      unfold addJoin
      split <;> rfl
    · show busyOf (s.addJoin j).notices = _
      unfold addJoin
      split <;> rfl
  | removeJoin j =>
    refine asks_nothing ?_ rfl ?_
    · show (s.removeJoin j).session.refresh = _
      unfold removeJoin
      split <;> rfl
    · show busyOf (s.removeJoin j).notices = _
      unfold removeJoin
      split <;> rfl
  | setFact name => exact .nothing
  | pickFact index => exact .nothing
  | setMode mode => exact .nothing
  | activateForward => exact s.asks_activateForward _
  | activateReverse => exact .nothing
  | setConnection connection =>
    have hb : busyOf (s.setConnection connection).notices = s.busyEnd :=
      (busyOf_publish _ s.busyEnd ()).trans s.busyOf_busyEnd
    show Asks s _ _ none (busyOf (s.setConnection connection).notices)
    rw [hb]
    exact .switch connection rfl
  | selectSchema schema =>
    show Asks s _ (s.selectSchema schema).session.refresh
      ((s.selectSchema schema).result.map .tables) (busyOf (s.selectSchema schema).notices)
    unfold selectSchema
    split
    · exact asks_requestTablesOf s _ (some schema)
    · show Asks s _ _ none (busyOf s.busyEnd)
      rw [busyOf_busyEnd]
      exact .select schema
  | requestSchemas =>
    show Asks s _ s.requestSchemas.session.refresh (some (.schemas s.requestSchemas.result))
      (busyOf s.requestSchemas.notices)
    unfold requestSchemas
    dsimp only
    rw [session_publishIfChanged, result_publishIfChanged, busyOf_publishIfChanged, busyOf_busyEnd]
    exact .schemas
  | requestTables => exact asks_requestTablesOf s _ none
  | applySchemas response => cases ha
  | applyTables response => cases ha

/-- An own action takes in no schemas. -/
theorem act_ne_schemas {a : Action} (ha : a.isOwn) (accepted : Accepted (List SchemaInfo)) :
    (s.act a).result ≠ .schemas accepted := by
  cases a with
  | applySchemas response => cases ha
  | applyTables response => cases ha
  | _ => exact fun h => nomatch h

/-- An own action takes in no tables. -/
theorem act_ne_tables {a : Action} (ha : a.isOwn) (accepted : Accepted (List Table)) :
    (s.act a).result ≠ .tables accepted := by
  cases a with
  | applySchemas response => cases ha
  | applyTables response => cases ha
  | _ => exact fun h => nomatch h

/-! ## What a response does to the refresh -/

theorem refresh_applySchemas (s : Session) (response : SchemaResponse) :
    (s.applySchemas response).session.refresh = (s.refresh.acceptSchemas response).1 := by
  cases hc : s.refresh.isCurrent response.generation with
  | false => rw [applySchemas_of_stale hc, Refresh.acceptSchemas_of_stale hc]; rfl
  | true =>
    cases hr : response.result with
    | error cause => rw [applySchemas_of_error hc hr, Refresh.acceptSchemas_of_error hc hr]; rfl
    | ok schemas => rw [applySchemas_of_ok hc hr, Refresh.acceptSchemas_of_ok hc hr]; rfl

theorem refresh_restorePending (s : Session) : s.restorePending.refresh = s.refresh := by
  unfold restorePending
  split
  · rfl
  · split <;> rfl

theorem refresh_takeTables (s : Session) (asked : String) (tables : List Table) :
    (s.takeTables asked tables).refresh =
      { s.refresh with state := .tablesReady, lastError := none } :=
  refresh_restorePending _

theorem refresh_applyTables (s : Session) (response : TableResponse) :
    (s.applyTables response).session.refresh = (s.refresh.acceptTables response).1 := by
  cases hc : s.refresh.isCurrent response.generation with
  | false => rw [applyTables_of_stale hc, Refresh.acceptTables_of_stale hc]; rfl
  | true =>
    cases hr : response.result with
    | error cause => rw [applyTables_of_error hc hr, Refresh.acceptTables_of_error hc hr]; rfl
    | ok tables =>
      rw [applyTables_of_ok hc hr, Refresh.acceptTables_of_ok hc hr]
      exact refresh_takeTables s response.schema tables

end Session

namespace Refresh

variable {r : Refresh}

theorem connection_selectSchema (r : Refresh) (schema : String) :
    (r.selectSchema schema).connection = r.connection := by
  unfold selectSchema
  split <;> rfl

theorem connection_acceptSchemas (r : Refresh) (response : SchemaResponse) :
    (r.acceptSchemas response).1.connection = r.connection := by
  unfold acceptSchemas
  split
  · cases response.result <;> rfl
  · rfl

theorem connection_acceptTables (r : Refresh) (response : TableResponse) :
    (r.acceptTables response).1.connection = r.connection := by
  unfold acceptTables
  split
  · cases response.result <;> rfl
  · rfl

end Refresh

/-- Whatever is asked for, no generation comes back. -/
theorem Asks.generation_le {s : Session} {a : Action} {r : Refresh} {ticket : Option Ticket}
    {busy : List Notice} (ha : Asks s a r ticket busy) :
    s.refresh.generation ≤ r.generation := by
  cases ha with
  | nothing => exact Nat.le_refl _
  | select schema => exact Exchange.generation_selectSchema_le
  | schemas | tables | switch => exact Nat.le_succ _

/-! ## The stamps of the tickets -/

/-- The tickets of a refresh are stamped in the order of their issue and with no generation to come,
and a ticket of the current generation is for the connection of the refresh. -/
structure Stamped (r : Refresh) (tickets : List Ticket) : Prop where
  increasing : tickets.Pairwise (·.generation < ·.generation)
  bounded : ∀ t ∈ tickets, t.generation ≤ r.generation
  current_connection : ∀ t ∈ tickets, t.generation = r.generation → t.connection = r.connection

namespace Stamped

variable {r r' : Refresh} {tickets : List Ticket}

theorem nil (r : Refresh) : Stamped r [] where
  increasing := .nil
  bounded _ h := absurd h List.not_mem_nil
  current_connection _ h := absurd h List.not_mem_nil

/-- No two tickets are of one generation. -/
theorem unique (h : Stamped r tickets) {m n : Nat} {t u : Ticket} (ht : tickets[m]? = some t)
    (hu : tickets[n]? = some u) (he : t.generation = u.generation) : m = n := by
  obtain ⟨hm, rfl⟩ := List.getElem?_eq_some_iff.1 ht
  obtain ⟨hn, rfl⟩ := List.getElem?_eq_some_iff.1 hu
  rcases Nat.lt_trichotomy m n with hlt | heq | hgt
  · have := List.pairwise_iff_getElem.1 h.increasing m n hm hn hlt
    omega
  · exact heq
  · have := List.pairwise_iff_getElem.1 h.increasing n m hn hm hgt
    omega

/-- Whatever keeps the generation and the connection keeps the stamps. -/
theorem keep (h : Stamped r tickets) (hg : r'.generation = r.generation)
    (hc : r'.connection = r.connection) : Stamped r' tickets where
  increasing := h.increasing
  bounded t ht := hg ▸ h.bounded t ht
  current_connection t ht := by
    rw [hg, hc]
    exact h.current_connection t ht

/-- A new generation leaves no ticket current. -/
theorem renew (h : Stamped r tickets) (hg : r.generation < r'.generation) :
    Stamped r' tickets where
  increasing := h.increasing
  bounded t ht := Nat.le_of_lt (Nat.lt_of_le_of_lt (h.bounded t ht) hg)
  current_connection t ht he := by
    have := h.bounded t ht
    omega

/-- A ticket of a new generation follows all others. -/
theorem issue (h : Stamped r tickets) {t : Ticket} (hg : r.generation < r'.generation)
    (ht : t.generation = r'.generation) (hc : t.connection = r'.connection) :
    Stamped r' (tickets ++ [t]) where
  increasing := by
    refine List.pairwise_append.2 ⟨h.increasing, List.pairwise_singleton .., fun u hu v hv => ?_⟩
    rw [List.mem_singleton.1 hv, ht]
    exact Nat.lt_of_le_of_lt (h.bounded u hu) hg
  bounded u hu := by
    rcases List.mem_append.1 hu with hu | hu
    · exact (h.renew hg).bounded u hu
    · exact List.mem_singleton.1 hu ▸ Nat.le_of_eq ht
  current_connection u hu he := by
    rcases List.mem_append.1 hu with hu | hu
    · exact (h.renew hg).current_connection u hu he
    · exact List.mem_singleton.1 hu ▸ hc

/-- **Whatever is asked for, the tickets are stamped as they must.** -/
theorem asks {s : Session} {a : Action} {ticket : Option Ticket} {busy : List Notice}
    (h : Stamped s.refresh tickets) (ha : Asks s a r' ticket busy) :
    Stamped r' (tickets ++ ticket.toList) := by
  cases ha with
  | nothing => rwa [Option.toList_none, List.append_nil]
  | schemas => exact h.issue (Nat.lt_succ_self _) rfl rfl
  | tables schema => exact h.issue (Nat.lt_succ_self _) rfl rfl
  | select schema =>
    rw [Option.toList_none, List.append_nil]
    have hle : s.refresh.generation ≤ (s.refresh.selectSchema schema).generation :=
      Exchange.generation_selectSchema_le
    rcases Nat.lt_or_eq_of_le hle with hg | hg
    · exact h.renew hg
    · exact h.keep hg.symm (s.refresh.connection_selectSchema schema)
  | switch connection _ =>
    rw [Option.toList_none, List.append_nil]
    exact h.renew (Nat.lt_succ_self _)

end Stamped

namespace Dialogue

variable {x : Dialogue}

/-- The tickets of the dialogue are stamped as they must. -/
def Stamped (x : Dialogue) : Prop := JoinWizard.Stamped x.session.refresh x.tickets

theorem stamped_start (id : String) (connection : Connection) (mode : Mode)
    (saved : Option SavedConfig) : (start id connection mode saved).Stamped := .nil _

theorem Stamped.step (h : x.Stamped) (m : Move) : (x.step m).Stamped := by
  cases x.heard m with
  | lost hm => rwa [step_lost hm]
  | own a ha => exact JoinWizard.Stamped.asks h (x.session.asks_act ha)
  | schemas ht connection result =>
    rw [step_schemas ht]
    refine h.keep ?_ ?_
    · rw [Session.refresh_applySchemas, Exchange.generation_acceptSchemas]
    · rw [Session.refresh_applySchemas, Refresh.connection_acceptSchemas]
  | tables ht schema result =>
    rw [step_tables ht]
    refine h.keep ?_ ?_
    · rw [Session.refresh_applyTables, Exchange.generation_acceptTables]
    · rw [Session.refresh_applyTables, Refresh.connection_acceptTables]

theorem Stamped.after (h : x.Stamped) (history : List Move) : (x.after history).Stamped := by
  induction history generalizing x with
  | nil => exact h
  | cons m history ih => exact ih (h.step m)

theorem Reachable.stamped (h : x.Reachable) : x.Stamped := by
  obtain ⟨id, connection, mode, saved, history, rfl⟩ := h
  exact (stamped_start id connection mode saved).after history

/-- A move keeps the model of the session consistent. -/
theorem consistent_step (h : x.session.Consistent) (m : Move) : (x.step m).session.Consistent := by
  show (x.turn m).session.Consistent
  unfold turn
  split
  · exact h.act _
  · exact h

theorem consistent_after (h : x.session.Consistent) (history : List Move) :
    (x.after history).session.Consistent := by
  induction history generalizing x with
  | nil => exact h
  | cons m history ih => exact ih (consistent_step h m)

end Dialogue
end JoinWizard
