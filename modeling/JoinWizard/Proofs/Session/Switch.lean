/-
# A switch of the connection leaks nothing

After a switch a session behaves as if it had just started on the new connection, whatever was done
to it before: of its past it knows only its mode and whether the step was entered, and of its
numbers it makes no use (`JoinWizard.Proofs.Session.Renumber`).  So two sessions that are switched
to one connection cannot be told apart any more.

What is done to them afterwards is the same if it looks the same from the switch on, that is, if
tickets are counted from there (`Move.since`).  Responses to tickets from before the switch do not
count: they are stale, and may be put in anywhere.

| | first session | second session |
| --- | --- | --- |
| tickets before the switch | 0, 1, 2 | 0 |
| tickets after it | 3, 4, … | 1, 2, … |
| the same, seen from the switch | 0, 1, … | 0, 1, … |
-/

import JoinWizard.Proofs.Session.Notices
import JoinWizard.Proofs.Session.Renumber
import JoinWizard.Session.Commit

namespace JoinWizard

/-- All that a session shows: everything but its id and the number of its generation. -/
structure View where
  connection : Connection
  refreshState : RefreshState
  schemas : List SchemaInfo
  selectedSchema : Option String
  lastError : Option HostError
  catalog : Catalog
  selection : Selection
  joins : JoinGraph
  fact : FactTable
  mode : Mode
  pending : Option SavedConfig
  activated : Bool
  gates : Gates
  published : Gates
  /-- What would be committed under a name, but for the id. -/
  snapshot : String → Snapshot

/-- What a session shows. -/
def Session.view (s : Session) : View where
  connection := s.connection
  refreshState := s.refresh.state
  schemas := s.refresh.schemas
  selectedSchema := s.refresh.selectedSchema
  lastError := s.refresh.lastError
  catalog := s.catalog
  selection := s.selection
  joins := s.joins
  fact := s.fact
  mode := s.mode
  pending := s.pending
  activated := s.activated
  gates := s.gates
  published := s.published
  snapshot name := { s.snapshot name with sessionId := "" }

theorem Session.view_shift (id : String) (k : Nat) (s : Session) :
    (s.shift id k).view = s.view := rfl

/-- The reply with the generation of its ticket counted from `base`. -/
def Reply.since (base : Nat) : Reply → Reply
  | schemaTicket t => schemaTicket { t with generation := t.generation - base }
  | tableTicket t => tableTicket (t.map fun t => { t with generation := t.generation - base })
  | reply => reply

theorem Reply.since_shift (k : Nat) (reply : Reply) :
    (reply.shift k).since k = reply.since 0 := by
  cases reply with
  | schemaTicket t => simp [shift, since, SchemaTicket.shift]
  | tableTicket t => cases t <;> simp [shift, since, TableTicket.shift]
  | _ => rfl

/-- The move with tickets counted from the first `old` on.  Responses to older ones are none. -/
def Move.since (old : Nat) : Move → Option Move
  | own action isOwn => some (own action isOwn)
  | schemas n connection result =>
    if n < old then none else some (schemas (n - old) connection result)
  | tables n schema result => if n < old then none else some (tables (n - old) schema result)

theorem Move.since_zero (m : Move) : m.since 0 = some m := by
  cases m with
  | own action isOwn => rfl
  | schemas n connection result => rw [since, if_neg (Nat.not_lt_zero n)]; rfl
  | tables n schema result => rw [since, if_neg (Nat.not_lt_zero n)]; rfl

/-- What can be seen of a move: what is given back, what the host is told, what the session shows
afterwards. -/
structure Outcome where
  reply : Option Reply
  notices : List Notice
  view : View

namespace Dialogue

variable {x y z : Dialogue} {m m' : Move} {later later' : List Move} {id : String} {k : Nat}
  {old : List Ticket}

/-- What can be seen of some moves, with generations counted from `base`, and but for the responses
to the first `old` tickets. -/
def outcomes (base old : Nat) (x : Dialogue) : List Move → List Outcome
  | [] => []
  | m :: later =>
    if (m.since old).isSome then
      ⟨(x.turn m).result.map (Reply.since base), (x.turn m).notices, (x.step m).session.view⟩ ::
        outcomes base old (x.step m) later
    else outcomes base old (x.step m) later

/-- Whether a move is taken for a stale or a lost response: nothing changes and nothing is said. -/
def Ignores (x : Dialogue) (m : Move) : Prop :=
  (x.step m).session = x.session ∧ (x.turn m).notices = [] ∧
    ((x.turn m).result = none ∨ (x.turn m).result = some (.schemas .stale) ∨
      (x.turn m).result = some (.tables .stale))

/-- Whether every response to one of the first `old` tickets is ignored. -/
def IgnoresOld (old : Nat) (x : Dialogue) (later : List Move) : Prop :=
  ∀ before m since, later = before ++ m :: since → m.since old = none →
    (x.after before).Ignores m

/-! ## A dialogue with a past -/

/-- The dialogue under another id and a number of generations later, after some tickets of old. -/
def withPast (id : String) (k : Nat) (old : List Ticket) (z : Dialogue) : Dialogue :=
  ⟨z.session.shift id k, old ++ z.tickets.map (Ticket.shift k)⟩

theorem getElem?_withPast {n : Nat} (h : ¬ n < old.length) :
    (z.withPast id k old).tickets[n]? = (z.tickets[n - old.length]?).map (Ticket.shift k) := by
  rw [withPast, List.getElem?_append_right (Nat.le_of_not_lt h), List.getElem?_map]

/-- A move does what it does without the past, but for the numbers. -/
theorem action?_withPast (h : m.since old.length = some m') :
    (z.withPast id k old).action? m = (z.action? m').map (Action.shift k) := by
  cases m with
  | own a ha =>
    cases h
    exact congrArg some (Action.shift_of_isOwn ha k).symm
  | schemas n connection result =>
    by_cases hn : n < old.length
    · rw [Move.since, if_pos hn] at h
      cases h
    · rw [Move.since, if_neg hn] at h
      cases h
      rw [action?, action?, getElem?_withPast hn]
      rcases z.tickets[n - old.length]? with _ | t | t <;> rfl
  | tables n schema result =>
    by_cases hn : n < old.length
    · rw [Move.since, if_pos hn] at h
      cases h
    · rw [Move.since, if_neg hn] at h
      cases h
      rw [action?, action?, getElem?_withPast hn]
      rcases z.tickets[n - old.length]? with _ | t | t <;> rfl

theorem turn_withPast (h : m.since old.length = some m') :
    (z.withPast id k old).turn m = ((z.turn m').shift id k).map (Option.map (Reply.shift k)) := by
  rw [turn, turn, action?_withPast h]
  cases z.action? m' with
  | none => rfl
  | some a => exact congrArg (Turn.map some) (z.session.act_shift id k a)

/-- **A past makes no difference to a move** that is no response to a ticket of old. -/
theorem step_withPast (h : m.since old.length = some m') :
    (z.withPast id k old).step m = (z.step m').withPast id k old := by
  have hticket : ∀ reply : Option Reply,
      ((reply.map (Reply.shift k)).bind Reply.ticket?).toList =
        (reply.bind Reply.ticket?).toList.map (Ticket.shift k) := by
    rintro (_ | reply)
    · rfl
    · show (reply.shift k).ticket?.toList = reply.ticket?.toList.map _
      rw [Reply.ticket?_shift]
      cases reply.ticket? <;> rfl
  rw [step, turn_withPast h, withPast, step, withPast, List.map_append, ← List.append_assoc]
  exact congrArg (fun ts => Dialogue.mk _ (_ ++ ts)) (hticket (z.turn m').result)

/-- **A response to a ticket of old is ignored,** because its generation is over. -/
theorem ignores_withPast (hold : ∀ t ∈ old, t.generation < k) (h : m.since old.length = none) :
    (z.withPast id k old).Ignores m ∧ (z.withPast id k old).step m = z.withPast id k old := by
  have hstale : ∀ t ∈ old,
      (z.withPast id k old).session.refresh.isCurrent t.generation = false := by
    intro t ht
    have hlt := hold t ht
    exact decide_eq_false (show t.generation ≠ z.session.refresh.generation + k by omega)
  have hmem : ∀ {n : Nat} {t : Ticket}, n < old.length →
      (z.withPast id k old).tickets[n]? = some t → t ∈ old := by
    intro n t hn ht
    rw [withPast, List.getElem?_append_left hn] at ht
    exact List.mem_of_getElem? ht
  cases (z.withPast id k old).heard m with
  | lost hm =>
    have hstep := step_lost hm
    refine ⟨⟨congrArg Dialogue.session hstep, ?_⟩, hstep⟩
    rw [turn_lost hm]
    exact ⟨rfl, .inl rfl⟩
  | own a ha => cases h
  | @schemas n t ht connection result =>
    have hn : n < old.length := by
      by_contra hn
      rw [Move.since, if_neg hn] at h
      cases h
    have hc := hstale _ (hmem hn ht)
    have hstep : (z.withPast id k old).step (.schemas n connection result) =
        z.withPast id k old := by
      rw [step_schemas ht, Session.applySchemas_of_stale hc]
      rfl
    refine ⟨⟨congrArg Dialogue.session hstep, ?_⟩, hstep⟩
    rw [turn_schemas ht, Session.applySchemas_of_stale hc]
    exact ⟨rfl, .inr (.inl rfl)⟩
  | @tables n t ht schema result =>
    have hn : n < old.length := by
      by_contra hn
      rw [Move.since, if_neg hn] at h
      cases h
    have hc := hstale _ (hmem hn ht)
    have hstep : (z.withPast id k old).step (.tables n schema result) =
        z.withPast id k old := by
      rw [step_tables ht, Session.applyTables_of_stale hc]
      rfl
    refine ⟨⟨congrArg Dialogue.session hstep, ?_⟩, hstep⟩
    rw [turn_tables ht, Session.applyTables_of_stale hc]
    exact ⟨rfl, .inr (.inr rfl)⟩

/-! ## Moves of a dialogue with a past -/

/-- **What can be seen of some moves is what can be seen of them without the past.** -/
theorem outcomes_withPast (hold : ∀ t ∈ old, t.generation < k) (later : List Move) :
    (z.withPast id k old).outcomes k old.length later =
      z.outcomes 0 0 (later.filterMap (Move.since old.length)) := by
  induction later generalizing z with
  | nil => rfl
  | cons m later ih =>
    cases h : m.since old.length with
    | none =>
      rw [outcomes, h, List.filterMap_cons_none h, (ignores_withPast hold h).2]
      exact ih
    | some m' =>
      have hreply : ((z.turn m').result.map (Reply.shift k)).map (Reply.since k) =
          (z.turn m').result.map (Reply.since 0) := by
        rw [Option.map_map]
        exact congrArg (Option.map · _) (funext (Reply.since_shift k))
      have hview : ((z.step m').withPast id k old).session.view = (z.step m').session.view :=
        Session.view_shift id k _
      rw [outcomes, h, List.filterMap_cons_some h, outcomes, Move.since_zero, step_withPast h,
        turn_withPast h, ih, hview]
      show Outcome.mk _ _ _ :: _ = Outcome.mk _ _ _ :: _
      rw [← hreply]
      rfl

theorem ignoresOld_withPast (hold : ∀ t ∈ old, t.generation < k) (later : List Move) :
    (z.withPast id k old).IgnoresOld old.length later := by
  induction later generalizing z with
  | nil =>
    intro before m since h
    cases before <;> cases h
  | cons e later ih =>
    intro before m since hsplit hm
    cases before with
    | nil =>
      obtain ⟨rfl, -⟩ := List.cons.inj hsplit
      exact (ignores_withPast hold hm).1
    | cons e' before =>
      obtain ⟨rfl, htail⟩ := List.cons.inj hsplit
      show (((z.withPast id k old).step e).after before).Ignores m
      cases h : e.since old.length with
      | none =>
        rw [(ignores_withPast hold h).2]
        exact ih before m since htail hm
      | some e' =>
        rw [step_withPast h]
        exact ih before m since htail hm

/-! ## The switch -/

/-- A session that has just started on a connection, in a mode, in a step entered or not. -/
def fresh (connection : Connection) (mode : Mode) (activated : Bool) : Dialogue :=
  ⟨{ Session.start "" connection mode none with activated }, []⟩

/-- **After a switch a dialogue is a fresh one with a past.** -/
theorem step_switch (x : Dialogue) (connection : Connection) :
    x.step (.switch connection) =
      (fresh connection x.session.mode x.session.activated).withPast x.session.id
        (x.session.refresh.generation + 1) x.tickets := by
  have hrefresh : x.session.refresh.setConnection connection =
      ({ connection } : Refresh).shift (x.session.refresh.generation + 1) :=
    congrArg (fun g => ({ connection, generation := g } : Refresh)) (Nat.zero_add _).symm
  have hgates : (x.session.setConnection connection).session.gates = .blocked :=
    Session.gates_of_selection_nil rfl
  have hsession : (x.session.setConnection connection).session =
      (fresh connection x.session.mode x.session.activated).session.shift x.session.id
        (x.session.refresh.generation + 1) :=
    calc (x.session.setConnection connection).session
      _ = { (x.session.setConnection connection).session with
            published := (x.session.setConnection connection).session.gates } := rfl
      _ = { (x.session.setConnection connection).session with
            refresh := ({ connection } : Refresh).shift (x.session.refresh.generation + 1)
            published := .blocked } := by rw [hgates, ← hrefresh]; rfl
      _ = _ := rfl
  show Dialogue.mk (x.session.setConnection connection).session (x.tickets ++ []) = _
  rw [hsession]
  rfl

/-- **A switch forgets.**  Two dialogues in one mode, in steps both entered or both not, are
switched to one connection.  If what is done to them then is the same, with tickets counted from the
switch and but for responses to tickets from before it, then what can be seen is the same, with
generations counted from the switch; and those responses are ignored. -/
theorem switch_forgets {x y : Dialogue} (hx : x.Reachable) (hy : y.Reachable)
    (hmode : x.session.mode = y.session.mode)
    (hactivated : x.session.activated = y.session.activated) (connection : Connection)
    {later later' : List Move}
    (hcommon : later.filterMap (Move.since x.tickets.length) =
      later'.filterMap (Move.since y.tickets.length)) :
    let x' := x.step (.switch connection)
    let y' := y.step (.switch connection)
    x'.session.view = y'.session.view ∧
      x'.outcomes x'.session.refresh.generation x.tickets.length later =
        y'.outcomes y'.session.refresh.generation y.tickets.length later' ∧
      x'.IgnoresOld x.tickets.length later ∧ y'.IgnoresOld y.tickets.length later' := by
  intro x' y'
  have hold : ∀ t ∈ x.tickets, t.generation < x.session.refresh.generation + 1 :=
    fun t ht => Nat.lt_succ_of_le (hx.stamped.bounded t ht)
  have hold' : ∀ t ∈ y.tickets, t.generation < y.session.refresh.generation + 1 :=
    fun t ht => Nat.lt_succ_of_le (hy.stamped.bounded t ht)
  have hx' : x' = _ := x.step_switch connection
  have hy' : y' = _ := y.step_switch connection
  have hgeneration : x'.session.refresh.generation = x.session.refresh.generation + 1 := rfl
  have hgeneration' : y'.session.refresh.generation = y.session.refresh.generation + 1 := rfl
  rw [hgeneration, hgeneration', hx', hy', ← hmode, ← hactivated]
  refine ⟨?_, ?_, ignoresOld_withPast hold later, ignoresOld_withPast hold' later'⟩
  · exact (Session.view_shift ..).trans (Session.view_shift ..).symm
  · rw [outcomes_withPast hold later, outcomes_withPast hold' later', hcommon]

/-- A dialogue that awaits the tables of a connection. -/
def awaiting : Dialogue :=
  (start "first" ⟨"shop", "static", "shop", none⟩ .flat none).after [.own .requestTables rfl]

/-- A dialogue on another connection that has a configuration to restore and asked for nothing. -/
def restoring : Dialogue :=
  start "second" ⟨"crm", "static", "crm", none⟩ .flat
    (some { schema := some "books", tables := ["loans"] })

/-- What is done to the one after a switch: tables it had asked for before come late. -/
def loansAfterOrders : List Move :=
  [.own .requestTables rfl, .tables 0 "shop" (.ok [{ name := "orders" }]),
    .tables 1 "books" (.ok [{ name := "loans" }])]

/-- The same done to the other, which had asked for none. -/
def loansOnly : List Move :=
  [.own .requestTables rfl, .tables 0 "books" (.ok [{ name := "loans" }])]

/-- Late tables and a configuration to restore are both forgotten. -/
theorem switch_forgets_late_tables :
    let books : Connection := ⟨"books", "static", "books", none⟩
    let x := awaiting.step (.switch books)
    let y := restoring.step (.switch books)
    x.outcomes x.session.refresh.generation 1 loansAfterOrders =
        y.outcomes y.session.refresh.generation 0 loansOnly ∧
      (x.after loansAfterOrders).session.catalog.tables = [{ name := "loans" }] ∧
      (y.after loansOnly).session.selection.tables = [] :=
  have hawaiting : awaiting.Reachable := ⟨"first", _, .flat, none, _, rfl⟩
  have hrestoring : restoring.Reachable := ⟨"second", _, .flat, _, [], rfl⟩
  ⟨(switch_forgets hawaiting hrestoring rfl rfl _ rfl).2.1, rfl, rfl⟩

end Dialogue
end JoinWizard
