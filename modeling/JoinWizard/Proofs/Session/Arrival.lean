/-
# Responses in any order

Responses to several tickets may be on their way at once, and nobody can tell in which order they
arrive.  It makes no difference.  One of the tickets at most is current, so one of the responses at
most is taken in; and whether it comes first or last, the others are stale.

| order of arrival | what is done |
| --- | --- |
| `a`, then the current one, then `b` | nothing, the response is taken in, nothing |
| the current one, then `b`, then `a` | the response is taken in, nothing, nothing |

Both rows come to the same because a response leaves the generation and the tickets alone, whatever
else it does: it makes no other ticket current, and none stale.
-/

import JoinWizard.Proofs.Session.Dialogue

namespace JoinWizard

/-- The place of the ticket that a move is a response to, if it is a response. -/
def Move.ticket? : Move → Option Nat
  | own _ _ => none
  | schemas n _ _ => some n
  | tables n _ _ => some n

/-- What is given back for a response to the ticket that is not taken in. -/
def Ticket.staleReply : Ticket → Reply
  | schemas _ => .schemas .stale
  | tables _ => .tables .stale

namespace Dialogue

/-- A move is a response to a ticket that was issued, as what the ticket is for. -/
inductive Answers (x : Dialogue) : Move → Ticket → Prop
  | schemas {n : Nat} {t : SchemaTicket} (ht : x.tickets[n]? = some (.schemas t))
    (connection : String) (result : Except SourceError (List SchemaInfo)) :
    Answers x (.schemas n connection result) (.schemas t)
  | tables {n : Nat} {t : TableTicket} (ht : x.tickets[n]? = some (.tables t))
    (schema : String) (result : Except SourceError (List Table)) :
    Answers x (.tables n schema result) (.tables t)

/-- What some moves give back, in their order. -/
def results (x : Dialogue) : List Move → List (Option Reply)
  | [] => []
  | m :: history => (x.turn m).result :: (x.step m).results history

variable {x y : Dialogue} {m m' : Move} {t t' : Ticket} {order order' : List Move}

/-! ## One response -/

/-- What answers what depends on the tickets alone. -/
theorem Answers.of_tickets_eq (h : x.Answers m t) (hy : y.tickets = x.tickets) : y.Answers m t := by
  cases h with
  | schemas ht connection result => exact .schemas (hy ▸ ht) connection result
  | tables ht schema result => exact .tables (hy ▸ ht) schema result

/-- A response issues no ticket. -/
theorem Answers.tickets_step (h : x.Answers m t) : (x.step m).tickets = x.tickets := by
  cases h with
  | schemas ht connection result => rw [step_schemas ht]
  | tables ht schema result => rw [step_tables ht]

/-- A response takes no new generation. -/
theorem Answers.generation_step (h : x.Answers m t) :
    (x.step m).session.refresh.generation = x.session.refresh.generation := by
  cases h with
  | schemas ht connection result =>
    rw [step_schemas ht, Session.refresh_applySchemas, Exchange.generation_acceptSchemas]
  | tables ht schema result =>
    rw [step_tables ht, Session.refresh_applyTables, Exchange.generation_acceptTables]

/-- **A response to a ticket of another generation does nothing.** -/
theorem Answers.turn_of_stale (h : x.Answers m t)
    (hg : t.generation ≠ x.session.refresh.generation) :
    x.turn m = x.session.silently (some t.staleReply) := by
  cases h with
  | schemas ht connection result =>
    rw [turn_schemas ht, Session.applySchemas_of_stale (decide_eq_false hg)]
    rfl
  | tables ht schema result =>
    rw [turn_tables ht, Session.applyTables_of_stale (decide_eq_false hg)]
    rfl

theorem Answers.step_of_stale (h : x.Answers m t)
    (hg : t.generation ≠ x.session.refresh.generation) : x.step m = x := by
  have hsession : (x.step m).session = x.session := by
    rw [step, h.turn_of_stale hg]
    rfl
  have htickets : (x.step m).tickets = x.tickets := h.tickets_step
  calc x.step m = ⟨(x.step m).session, (x.step m).tickets⟩ := rfl
    _ = x := by rw [hsession, htickets]

/-- **A response that is taken for stale is to a ticket of another generation.** -/
theorem exists_answers_of_stale
    (h : (x.turn m).result = some (.schemas .stale) ∨ (x.turn m).result = some (.tables .stale)) :
    ∃ t, x.Answers m t ∧ t.generation ≠ x.session.refresh.generation := by
  cases x.heard m with
  | lost hm =>
    rw [turn_lost hm] at h
    rcases h with h | h <;> cases h
  | own a ha =>
    rcases h with h | h
    · exact absurd (Option.some.inj h) (Session.act_ne_schemas ha _)
    · exact absurd (Option.some.inj h) (Session.act_ne_tables ha _)
  | @schemas n t ht connection result =>
    refine ⟨.schemas t, .schemas ht connection result, fun hg => ?_⟩
    have hc : x.session.refresh.isCurrent t.generation = true := Refresh.isCurrent_iff.2 hg
    have hne : (x.session.applySchemas ⟨t.generation, connection, result⟩).result ≠ .stale := by
      rw [Session.result_applySchemas]
      exact Refresh.acceptSchemas_ne_stale_iff.2 hc
    rw [turn_schemas ht] at h
    rcases h with h | h
    · exact hne (Reply.schemas.inj (Option.some.inj h))
    · cases Option.some.inj h
  | @tables n t ht schema result =>
    refine ⟨.tables t, .tables ht schema result, fun hg => ?_⟩
    have hc : x.session.refresh.isCurrent t.generation = true := Refresh.isCurrent_iff.2 hg
    have hne : (x.session.applyTables ⟨t.generation, schema, result⟩).result ≠ .stale := by
      rw [Session.result_applyTables]
      exact Refresh.acceptTables_ne_stale_iff.2 hc
    rw [turn_tables ht] at h
    rcases h with h | h
    · cases Option.some.inj h
    · exact hne (Reply.tables.inj (Option.some.inj h))

/-- **Responses to two tickets are not both current.** -/
theorem Answers.ticket?_eq (hx : x.Stamped) (h : x.Answers m t) (h' : x.Answers m' t')
    (hg : t.generation = t'.generation) : m.ticket? = m'.ticket? := by
  have hplace : ∀ {e u}, x.Answers e u → ∃ n, e.ticket? = some n ∧ x.tickets[n]? = some u := by
    intro e u he
    cases he with
    | schemas ht | tables ht => exact ⟨_, rfl, ht⟩
  obtain ⟨n, hn, ht⟩ := hplace h
  obtain ⟨n', hn', ht'⟩ := hplace h'
  rw [hn, hn', hx.unique ht ht' hg]

/-! ## Two responses -/

/-- A response to another ticket that has come before makes no difference to what a response is
told and given back. -/
theorem Answers.turn_step (hx : x.Stamped) (h : x.Answers m t) (h' : x.Answers m' t')
    (hne : m.ticket? ≠ m'.ticket?) :
    ((x.step m).turn m').notices = (x.turn m').notices ∧
      ((x.step m).turn m').result = (x.turn m').result := by
  by_cases hg : t.generation = x.session.refresh.generation
  · have hg' : t'.generation ≠ x.session.refresh.generation := fun he =>
      hne (h.ticket?_eq hx h' (hg.trans he.symm))
    have hlater : t'.generation ≠ (x.step m).session.refresh.generation := by
      rwa [h.generation_step]
    have hturn := (h'.of_tickets_eq h.tickets_step).turn_of_stale hlater
    rw [hturn, h'.turn_of_stale hg']
    exact ⟨rfl, rfl⟩
  · rw [h.step_of_stale hg]
    exact ⟨rfl, rfl⟩

/-- **Of two responses to different tickets one is taken in at most,** and the order in which they
arrive makes no difference to the session nor to what the host is told. -/
theorem Answers.comm (hx : x.Stamped) (h : x.Answers m t) (h' : x.Answers m' t')
    (hne : m.ticket? ≠ m'.ticket?) :
    (x.step m).step m' = (x.step m').step m ∧
      (x.turn m).notices ++ ((x.step m).turn m').notices =
        (x.turn m').notices ++ ((x.step m').turn m).notices := by
  have hafter := h'.of_tickets_eq h.tickets_step
  have hbefore := h.of_tickets_eq h'.tickets_step
  rw [(h.turn_step hx h' hne).1, (h'.turn_step hx h hne.symm).1]
  by_cases hg : t.generation = x.session.refresh.generation
  · have hg' : t'.generation ≠ x.session.refresh.generation := fun he =>
      hne (h.ticket?_eq hx h' (hg.trans he.symm))
    have hlater : t'.generation ≠ (x.step m).session.refresh.generation := by
      rwa [h.generation_step]
    rw [hafter.step_of_stale hlater, h'.step_of_stale hg', h'.turn_of_stale hg']
    exact ⟨rfl, List.append_nil _⟩
  · have hlater : t.generation ≠ (x.step m').session.refresh.generation := by
      rwa [h'.generation_step]
    rw [hbefore.step_of_stale hlater, h.step_of_stale hg, h.turn_of_stale hg]
    exact ⟨rfl, (List.append_nil _).symm⟩

/-! ## Any number of responses -/

/-- **Responses to different tickets may come in any order.** -/
theorem after_perm (hx : x.Stamped) (hperm : order.Perm order')
    (hanswers : ∀ m ∈ order, ∃ t, x.Answers m t) (hdistinct : (order.map Move.ticket?).Nodup) :
    x.after order = x.after order' ∧ x.noticesOf order = x.noticesOf order' := by
  induction hperm generalizing x with
  | nil => exact ⟨rfl, rfl⟩
  | @cons m order order' hperm ih =>
    obtain ⟨t, ht⟩ := hanswers m (List.mem_cons_self ..)
    have hrest : ∀ e ∈ order, ∃ u, (x.step m).Answers e u := by
      intro e he
      obtain ⟨u, hu⟩ := hanswers e (List.mem_cons_of_mem _ he)
      exact ⟨u, hu.of_tickets_eq ht.tickets_step⟩
    obtain ⟨hsession, hnotices⟩ := ih (hx.step m) hrest (List.nodup_cons.1 hdistinct).2
    refine ⟨hsession, ?_⟩
    rw [noticesOf, noticesOf, hnotices]
  | swap m m' order =>
    obtain ⟨t', ht'⟩ := hanswers m' (List.mem_cons_self ..)
    obtain ⟨t, ht⟩ := hanswers m (List.mem_cons_of_mem _ (List.mem_cons_self ..))
    have hne : m'.ticket? ≠ m.ticket? := fun he =>
      (List.nodup_cons.1 hdistinct).1 (he ▸ List.mem_cons_self ..)
    obtain ⟨hstep, hnotices⟩ := ht'.comm hx ht hne
    constructor
    · show ((x.step m').step m).after order = ((x.step m).step m').after order
      rw [hstep]
    · show (x.turn m').notices ++ (((x.step m').turn m).notices ++ _) =
        (x.turn m).notices ++ (((x.step m).turn m').notices ++ _)
      rw [← List.append_assoc, ← List.append_assoc, hnotices, hstep]
  | trans hfirst _ ih ih' =>
    obtain ⟨hsession, hnotices⟩ := ih hx hanswers hdistinct
    have hanswers' := fun m hm => hanswers m (hfirst.mem_iff.2 hm)
    obtain ⟨hsession', hnotices'⟩ := ih' hx hanswers' ((hfirst.map _).nodup_iff.1 hdistinct)
    exact ⟨hsession.trans hsession', hnotices.trans hnotices'⟩

/-- **Whatever comes before it, a response comes to what it would come to at once.** -/
theorem results_eq_map (hx : x.Stamped) (hanswers : ∀ m ∈ order, ∃ t, x.Answers m t)
    (hdistinct : (order.map Move.ticket?).Nodup) :
    x.results order = order.map fun m => (x.turn m).result := by
  induction order generalizing x with
  | nil => rfl
  | cons m order ih =>
    obtain ⟨hnew, hrest⟩ := List.nodup_cons.1 hdistinct
    obtain ⟨t, ht⟩ := hanswers m (List.mem_cons_self ..)
    have hanswers' : ∀ e ∈ order, ∃ u, x.Answers e u := fun e he =>
      hanswers e (List.mem_cons_of_mem _ he)
    have hlater : ∀ e ∈ order, ∃ u, (x.step m).Answers e u := fun e he =>
      (hanswers' e he).imp fun _ hu => hu.of_tickets_eq ht.tickets_step
    rw [results, ih (hx.step m) hlater hrest, List.map_cons]
    refine congrArg _ (List.map_congr_left fun e he => ?_)
    obtain ⟨u, hu⟩ := hanswers' e he
    have hne : m.ticket? ≠ e.ticket? := fun heq => hnew (heq ▸ List.mem_map_of_mem he)
    exact (ht.turn_step hx hu hne).2

/-- **The order in which responses arrive makes no difference.**  To a dialogue come responses to
different tickets, each as what its ticket is for, and nothing else is done in between.  In any two
orders the session is the same in the end, the host is told the same, and each response comes to the
same.  And a response that is taken for stale changes nothing at all, at any time, and the host is
told nothing. -/
theorem arrival_in_any_order (hx : x.Reachable) :
    (∀ order order' : List Move, order.Perm order' → (∀ m ∈ order, ∃ t, x.Answers m t) →
      (order.map Move.ticket?).Nodup →
        x.after order = x.after order' ∧ x.noticesOf order = x.noticesOf order' ∧
          (order.zip (x.results order)).Perm (order'.zip (x.results order'))) ∧
    ∀ m, (x.turn m).result = some (.schemas .stale) ∨ (x.turn m).result = some (.tables .stale) →
      x.step m = x ∧ (x.turn m).notices = [] := by
  constructor
  · intro order order' hperm hanswers hdistinct
    obtain ⟨hsession, hnotices⟩ := after_perm hx.stamped hperm hanswers hdistinct
    have hanswers' := fun m hm => hanswers m (hperm.mem_iff.2 hm)
    have hdistinct' := (hperm.map _).nodup_iff.1 hdistinct
    refine ⟨hsession, hnotices, ?_⟩
    rw [results_eq_map hx.stamped hanswers hdistinct,
      results_eq_map hx.stamped hanswers' hdistinct', ← List.map_prod_left_eq_zip,
      ← List.map_prod_left_eq_zip]
    exact hperm.map _
  · intro m h
    obtain ⟨t, ht, hg⟩ := exists_answers_of_stale h
    refine ⟨ht.step_of_stale hg, ?_⟩
    rw [ht.turn_of_stale hg]
    rfl

/-- Schemas are asked for, and then tables twice. -/
def threeRequests : List Move :=
  [.own .requestSchemas rfl, .own .requestTables Action.isOwn_requestTables,
    .own .requestTables Action.isOwn_requestTables]

/-- The schemas, a failure, and the tables that were asked for last. -/
def threeResponses : List Move :=
  [.schemas 0 "shop" (.ok [{ name := "crm" }]), .tables 1 "" (.error (.schemaNotFound "")),
    .tables 2 "" (.ok [{ name := "orders" }])]

/-- The tables that were asked for last are the catalog, though they come first, or last. -/
theorem arrival_in_any_order_last_first :
    let x := (start "first" ⟨"shop", "static", "shop", none⟩ .flat none).after threeRequests
    x.Reachable ∧ threeResponses.Perm threeResponses.reverse ∧
      (∀ m ∈ threeResponses, ∃ t, x.Answers m t) ∧ (threeResponses.map Move.ticket?).Nodup ∧
      x.after threeResponses = x.after threeResponses.reverse ∧
      x.noticesOf threeResponses = x.noticesOf threeResponses.reverse ∧
      (x.after threeResponses).session.catalog.tables = [{ name := "orders" }] ∧
      x.step (.tables 1 "" (.error (.schemaNotFound ""))) = x := by
  intro x
  have hx : x.Reachable := ⟨"first", ⟨"shop", "static", "shop", none⟩, .flat, none, _, rfl⟩
  have hperm : threeResponses.Perm threeResponses.reverse := (List.reverse_perm _).symm
  have hanswers : ∀ m ∈ threeResponses, ∃ t, x.Answers m t := by
    intro m hm
    simp only [threeResponses, List.mem_cons, List.not_mem_nil, or_false] at hm
    rcases hm with rfl | rfl | rfl
    · exact ⟨_, .schemas rfl _ _⟩
    · exact ⟨_, .tables rfl _ _⟩
    · exact ⟨_, .tables rfl _ _⟩
  have hdistinct : (threeResponses.map Move.ticket?).Nodup := by decide
  obtain ⟨hany, hstale⟩ := arrival_in_any_order hx
  obtain ⟨hsession, hnotices, -⟩ := hany _ _ hperm hanswers hdistinct
  exact ⟨hx, hperm, hanswers, hdistinct, hsession, hnotices, rfl, (hstale _ (.inr rfl)).1⟩

end Dialogue
end JoinWizard
