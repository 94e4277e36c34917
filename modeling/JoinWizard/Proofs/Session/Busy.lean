/-
# The host is busy while tables are outstanding

The host shows that it waits from one `showBusy` to the next `hideBusy`.  A session sends the one
where it asks for tables, and the other at every place where a fetch of tables may come to its end,
six places in all that know nothing of each other:

| what ends a fetch of tables | `hideBusy` is sent |
| --- | --- |
| its response, good or bad | always |
| a request for schemas, a switch, a schema selected before entering | if tables were awaited |
| another request for tables | never, for the host goes on waiting |

A response with schemas sends neither, although it changes the state.  It may do so because it never
ends a fetch of tables: while tables are awaited the current ticket is one for tables, and a
response to a ticket for schemas is stale.
-/

import JoinWizard.Proofs.Session.Dialogue
import Mathlib.Data.List.Induction

namespace JoinWizard
namespace Notice

/-- What the host was told last of awaited tables, if anything. -/
def lastBusy? (notices : List Notice) : Option Notice := (busyOf notices).getLast?

theorem lastBusy?_append (ms ns : List Notice) :
    lastBusy? (ms ++ ns) = (lastBusy? ns).or (lastBusy? ms) := by
  rw [lastBusy?, busyOf_append, List.getLast?_append]
  rfl

end Notice

open Notice

namespace Session

variable {s : Session} {last : Option Notice}

theorem busyOf_applySchemas (s : Session) (response : SchemaResponse) :
    busyOf (s.applySchemas response).notices = [] := by
  cases hc : s.refresh.isCurrent response.generation with
  | false => rw [applySchemas_of_stale hc]; rfl
  | true =>
    cases hr : response.result with
    | error cause => rw [applySchemas_of_error hc hr]; rfl
    | ok schemas => rw [applySchemas_of_ok hc hr]; rfl

/-- **A response with tables that is not stale ends the wait.** -/
theorem busyOf_applyTables {response : TableResponse}
    (hc : s.refresh.isCurrent response.generation = true) :
    busyOf (s.applyTables response).notices = [.hideBusy] := by
  cases hr : response.result with
  | error cause => rw [applyTables_of_error hc hr]; rfl
  | ok tables => rw [applyTables_of_ok hc hr, busyOf_publish]; rfl

/-- Where the wait is ended if there was one, the host is not told to wait any more. -/
theorem busyEnd_ne_showBusy (h : last = some .showBusy ↔ s.refresh.state = .fetchingTables) :
    (s.busyEnd.getLast?).or last ≠ some .showBusy := by
  unfold busyEnd Refresh.isFetchingTables
  split
  · exact fun he => nomatch he
  · next hs => exact fun he => hs (decide_eq_true (h.1 he))

end Session

namespace Refresh

variable {r : Refresh}

theorem acceptSchemas_ne_fetchingTables {response : SchemaResponse}
    (hc : r.isCurrent response.generation = true) :
    (r.acceptSchemas response).1.state ≠ .fetchingTables := by
  cases hr : response.result with
  | error cause => rw [acceptSchemas_of_error hc hr]; exact fun h => nomatch h
  | ok schemas => rw [acceptSchemas_of_ok hc hr]; exact fun h => nomatch h

theorem acceptTables_ne_fetchingTables {response : TableResponse}
    (hc : r.isCurrent response.generation = true) :
    (r.acceptTables response).1.state ≠ .fetchingTables := by
  cases hr : response.result with
  | error cause => rw [acceptTables_of_error hc hr]; exact fun h => nomatch h
  | ok tables => rw [acceptTables_of_ok hc hr]; exact fun h => nomatch h

/-- A selected schema gives up the fetch of tables, under a new generation, or there was none. -/
theorem selectSchema_cases (r : Refresh) (schema : String) :
    ((r.selectSchema schema).state ≠ .fetchingTables ∧
        (r.selectSchema schema).generation = r.generation + 1) ∨
      ((r.selectSchema schema).state = r.state ∧ r.state ≠ .fetchingTables ∧
        (r.selectSchema schema).generation = r.generation) := by
  unfold selectSchema isFetchingTables
  split
  · refine .inl ⟨?_, rfl⟩
    dsimp only
    split <;> exact fun h => nomatch h
  · next h => exact .inr ⟨rfl, fun hs => h (decide_eq_true hs), rfl⟩

end Refresh

namespace Asks

variable {s : Session} {a : Action} {r : Refresh} {ticket : Option Ticket} {busy : List Notice}
  {last : Option Notice}

/-- **What is asked for, the host is told:** after any own action it waits exactly if tables are
awaited, if it did so before. -/
theorem lastBusy_iff (ha : Asks s a r ticket busy)
    (h : last = some .showBusy ↔ s.refresh.state = .fetchingTables) :
    busy.getLast?.or last = some .showBusy ↔ r.state = .fetchingTables := by
  cases ha with
  | nothing => exact h
  | schemas => exact iff_of_false (Session.busyEnd_ne_showBusy h) fun hs => nomatch hs
  | tables schema => exact iff_of_true rfl rfl
  | select schema =>
    refine iff_of_false (Session.busyEnd_ne_showBusy h) ?_
    rcases s.refresh.selectSchema_cases schema with ⟨hs, -⟩ | ⟨hs, hne, -⟩
    · exact hs
    · rwa [hs]
  | switch connection _ => exact iff_of_false (Session.busyEnd_ne_showBusy h) fun hs => nomatch hs

/-- What is awaited after an own action: the tables of the ticket it hands out, or under an
unchanged generation what was awaited before. -/
theorem fetchingTables_iff (ha : Asks s a r ticket busy) :
    r.state = .fetchingTables ↔ (∃ t, ticket = some (.tables t)) ∨
      (ticket = none ∧ r.generation = s.refresh.generation ∧
        s.refresh.state = .fetchingTables) := by
  cases ha with
  | nothing => simp
  | schemas => simp [Refresh.requestSchemas]
  | tables schema => simp [Refresh.requestTables]
  | select schema =>
    rcases s.refresh.selectSchema_cases schema with ⟨hs, hg⟩ | ⟨hs, hne, -⟩
    · simp [hs, hg]
    · simp [hs, hne]
  | switch connection _ => simp [Refresh.setConnection]

/-- A ticket that is handed out is of a new generation. -/
theorem of_ticket {t : Ticket} (ha : Asks s a r ticket busy) (ht : ticket = some t) :
    t.generation = r.generation ∧ r.generation = s.refresh.generation + 1 := by
  cases ha with
  | nothing | select | switch => cases ht
  | schemas | tables => cases ht; exact ⟨rfl, rfl⟩

end Asks

namespace Dialogue

variable {x first : Dialogue} {history : List Move} {m : Move} {n : Nat}

/-- Whether a response to a ticket for tables has come.  One that came before the ticket was issued
was lost and does not count. -/
def HasAnswer (first : Dialogue) (history : List Move) (n : Nat) : Prop :=
  ∃ before schema result since, history = before ++ .tables n schema result :: since ∧
    n < (first.after before).tickets.length

/-- Whether tables are outstanding: some ticket for tables would have its response applied, and has
had none. -/
def TablesOutstanding (first : Dialogue) (history : List Move) : Prop :=
  ∃ n t, (first.after history).tickets[n]? = some (.tables t) ∧
    t.generation = (first.after history).session.refresh.generation ∧
    ¬ HasAnswer first history n

theorem HasAnswer.lt_length (h : HasAnswer first history n) :
    n < (first.after history).tickets.length := by
  obtain ⟨before, schema, result, since, rfl, hn⟩ := h
  rw [after_append]
  exact Nat.lt_of_lt_of_le hn (tickets_grow _ _).length_le

theorem hasAnswer_snoc : HasAnswer first (history ++ [m]) n ↔
    HasAnswer first history n ∨
      (∃ schema result, m = .tables n schema result) ∧
        n < (first.after history).tickets.length := by
  constructor
  · rintro ⟨before, schema, result, since, h, hn⟩
    rcases snoc_eq_split_iff.1 h with ⟨rfl, hm, -⟩ | ⟨since', -, h⟩
    · exact .inr ⟨⟨schema, result, hm⟩, hn⟩
    · exact .inl ⟨before, schema, result, since', h, hn⟩
  · rintro (⟨before, schema, result, since, rfl, hn⟩ | ⟨⟨schema, result, rfl⟩, hn⟩)
    · exact ⟨before, schema, result, since ++ [m], by rw [List.append_assoc, List.cons_append], hn⟩
    · exact ⟨history, schema, result, [], rfl, hn⟩

/-- A move that is no response with tables answers nothing. -/
theorem hasAnswer_snoc_of_ne (hm : ∀ schema result, m ≠ .tables n schema result) :
    HasAnswer first (history ++ [m]) n ↔ HasAnswer first history n := by
  rw [hasAnswer_snoc]
  exact or_iff_left fun ⟨⟨schema, result, h⟩, _⟩ => hm schema result h

/-! ## What is outstanding, move by move -/

/-- **An own action:** the ticket it hands out is outstanding, or what was outstanding is so still,
unless a new generation gave it up. -/
theorem outstanding_own (hx : (first.after history).Stamped)
    (ih : (first.after history).session.refresh.state = .fetchingTables ↔
      TablesOutstanding first history) {a : Action} (ha : a.isOwn) :
    (first.after (history ++ [.own a ha])).session.refresh.state = .fetchingTables ↔
      TablesOutstanding first (history ++ [.own a ha]) := by
  have hasks := (first.after history).session.asks_act ha
  have hanswer (n : Nat) :
      HasAnswer first (history ++ [.own a ha]) n ↔ HasAnswer first history n :=
    hasAnswer_snoc_of_ne fun _ _ => Move.noConfusion
  unfold TablesOutstanding
  simp only [hanswer, after_snoc]
  set x := first.after history with hxdef
  show (x.session.act a).session.refresh.state = _ ↔ ∃ n t,
    (x.tickets ++ (x.session.act a).result.ticket?.toList)[n]? = some (Ticket.tables t) ∧
      t.generation = (x.session.act a).session.refresh.generation ∧ _
  rw [hasks.fetchingTables_iff, ih]
  constructor
  · rintro (⟨t, ht⟩ | ⟨ht, hg, n, t, hn, hc, hnone⟩)
    · refine ⟨x.tickets.length, t, ?_, (hasks.of_ticket ht).1, fun h => ?_⟩
      · rw [ht, Option.toList_some, List.getElem?_concat_length]
      · exact Nat.lt_irrefl _ h.lt_length
    · refine ⟨n, t, ?_, hc.trans hg.symm, hnone⟩
      rwa [ht, Option.toList_none, List.append_nil]
  · rintro ⟨n, t, hn, hc, hnone⟩
    cases hticket : (x.session.act a).result.ticket? with
    | none =>
      rw [hticket, Option.toList_none, List.append_nil] at hn
      have hle := hx.bounded _ (List.mem_of_getElem? hn)
      have hge := hasks.generation_le
      have hsame : (x.session.act a).session.refresh.generation = x.session.refresh.generation :=
        Nat.le_antisymm (hc ▸ hle) hge
      exact .inr ⟨rfl, hsame, n, t, hn, hc.trans hsame, hnone⟩
    | some u =>
      rw [hticket, Option.toList_some] at hn
      obtain ⟨-, hnew⟩ := hasks.of_ticket hticket
      rw [List.getElem?_append] at hn
      split at hn
      · have hle := hx.bounded _ (List.mem_of_getElem? hn)
        change t.generation ≤ _ at hle
        omega
      · obtain ⟨hlt, hu⟩ := List.getElem?_eq_some_iff.1 hn
        rw [List.getElem_singleton] at hu
        exact .inl ⟨t, congrArg some hu⟩

/-- **A response with schemas** leaves outstanding tables alone: it is stale while there are any. -/
theorem outstanding_schemas (hx : (first.after history).Stamped)
    (ih : (first.after history).session.refresh.state = .fetchingTables ↔
      TablesOutstanding first history) {t : SchemaTicket}
    (ht : (first.after history).tickets[n]? = some (.schemas t)) (connection : String)
    (result : Except SourceError (List SchemaInfo)) :
    (first.after (history ++ [.schemas n connection result])).session.refresh.state =
        .fetchingTables ↔
      TablesOutstanding first (history ++ [.schemas n connection result]) := by
  have hanswer (k : Nat) :
      HasAnswer first (history ++ [.schemas n connection result]) k ↔ HasAnswer first history k :=
    hasAnswer_snoc_of_ne fun _ _ => Move.noConfusion
  unfold TablesOutstanding
  simp only [hanswer, after_snoc, step_schemas ht, Session.refresh_applySchemas,
    Exchange.generation_acceptSchemas]
  cases hc : (first.after history).session.refresh.isCurrent t.generation with
  | false =>
    rw [Refresh.acceptSchemas_of_stale hc]
    exact ih
  | true =>
    refine iff_of_false (Refresh.acceptSchemas_ne_fetchingTables hc) ?_
    rintro ⟨k, u, hu, hg, -⟩
    obtain rfl := hx.unique hu ht (hg.trans (Refresh.isCurrent_iff.1 hc).symm)
    rw [ht] at hu
    cases hu

/-- **A response with tables** ends the fetch it is the response to, and no other. -/
theorem outstanding_tables (hx : (first.after history).Stamped)
    (ih : (first.after history).session.refresh.state = .fetchingTables ↔
      TablesOutstanding first history) {t : TableTicket}
    (ht : (first.after history).tickets[n]? = some (.tables t)) (schema : String)
    (result : Except SourceError (List Table)) :
    (first.after (history ++ [.tables n schema result])).session.refresh.state =
        .fetchingTables ↔
      TablesOutstanding first (history ++ [.tables n schema result]) := by
  have hlt : n < (first.after history).tickets.length := (List.getElem?_eq_some_iff.1 ht).1
  unfold TablesOutstanding
  simp only [after_snoc, step_tables ht, Session.refresh_applyTables,
    Exchange.generation_acceptTables]
  cases hc : (first.after history).session.refresh.isCurrent t.generation with
  | false =>
    rw [Refresh.acceptTables_of_stale hc, ih]
    refine exists_congr fun k => exists_congr fun u => and_congr_right fun hu =>
      and_congr_right fun hg => not_congr (hasAnswer_snoc_of_ne fun schema' result' he => ?_).symm
    obtain ⟨rfl, -⟩ := Move.tables.inj he
    obtain rfl : t = u := Ticket.tables.inj (Option.some.inj (ht.symm.trans hu))
    exact Bool.false_ne_true (hc.symm.trans (Refresh.isCurrent_iff.2 hg))
  | true =>
    refine iff_of_false (Refresh.acceptTables_ne_fetchingTables hc) ?_
    rintro ⟨k, u, hu, hg, hnone⟩
    obtain rfl := hx.unique hu ht (hg.trans (Refresh.isCurrent_iff.1 hc).symm)
    exact hnone (hasAnswer_snoc.2 (.inr ⟨⟨schema, result, rfl⟩, hlt⟩))

/-- A response that is lost answers no ticket for tables. -/
theorem outstanding_lost
    (ih : (first.after history).session.refresh.state = .fetchingTables ↔
      TablesOutstanding first history) (hm : (first.after history).action? m = none) :
    (first.after (history ++ [m])).session.refresh.state = .fetchingTables ↔
      TablesOutstanding first (history ++ [m]) := by
  unfold TablesOutstanding
  rw [after_snoc, step_lost hm, ih]
  refine exists_congr fun k => exists_congr fun u => and_congr_right fun hu =>
    and_congr_right fun _ => not_congr (hasAnswer_snoc_of_ne fun schema result he => ?_).symm
  rw [he, action?, hu] at hm
  cases hm

/-- **Tables are awaited exactly while they are outstanding.** -/
theorem fetchingTables_iff_outstanding (id : String) (connection : Connection) (mode : Mode)
    (saved : Option SavedConfig) (history : List Move) :
    ((start id connection mode saved).after history).session.refresh.state = .fetchingTables ↔
      TablesOutstanding (start id connection mode saved) history := by
  induction history using List.reverseRecOn with
  | nil =>
    refine iff_of_false (fun h => nomatch h) ?_
    rintro ⟨n, t, ht, -⟩
    cases ht
  | append_singleton history m ih =>
    have hx := (stamped_start id connection mode saved).after history
    cases ((start id connection mode saved).after history).heard m with
    | lost hm => exact outstanding_lost ih hm
    | own a ha => exact outstanding_own hx ih ha
    | schemas ht connection result => exact outstanding_schemas hx ih ht connection result
    | tables ht schema result => exact outstanding_tables hx ih ht schema result

/-! ## What the host knows -/

/-- **One move keeps the host busy as it must,** if a response with schemas is stale while tables
are awaited. -/
theorem lastBusy_turn {last : Option Notice}
    (h : last = some .showBusy ↔ x.session.refresh.state = .fetchingTables)
    (hschemas : ∀ (n : Nat) (t : SchemaTicket), x.tickets[n]? = some (.schemas t) →
      x.session.refresh.isCurrent t.generation = true → x.session.refresh.state ≠ .fetchingTables)
    (m : Move) :
    (lastBusy? (x.turn m).notices).or last = some .showBusy ↔
      (x.step m).session.refresh.state = .fetchingTables := by
  cases x.heard m with
  | lost hm =>
    rw [turn_lost hm, step_lost hm]
    exact h
  | own a ha => exact (x.session.asks_act ha).lastBusy_iff h
  | @schemas n t ht connection result =>
    have hsilent : lastBusy? (x.turn (.schemas n connection result)).notices = none := by
      rw [turn_schemas ht]
      exact congrArg List.getLast? (x.session.busyOf_applySchemas _)
    rw [hsilent, step_schemas ht, Session.refresh_applySchemas, Option.none_or, h]
    cases hc : x.session.refresh.isCurrent t.generation with
    | false => rw [Refresh.acceptSchemas_of_stale hc]
    | true =>
      exact iff_of_false (hschemas n t ht hc) (Refresh.acceptSchemas_ne_fetchingTables hc)
  | @tables n t ht schema result =>
    rw [turn_tables ht, step_tables ht, Session.refresh_applyTables]
    cases hc : x.session.refresh.isCurrent t.generation with
    | false =>
      rw [Refresh.acceptTables_of_stale hc, Session.applyTables_of_stale hc]
      exact h
    | true =>
      have hhide : lastBusy? (x.session.applyTables ⟨t.generation, schema, result⟩).notices =
          some .hideBusy := congrArg List.getLast? (Session.busyOf_applyTables hc)
      show (lastBusy? (x.session.applyTables ⟨t.generation, schema, result⟩).notices).or last = _ ↔
        _
      rw [hhide]
      exact iff_of_false (fun he => nomatch he) (Refresh.acceptTables_ne_fetchingTables hc)

/-- **The host waits exactly while tables are outstanding.**  After any moves, what it was told last
is to wait if and only if the refresh awaits tables, which it does exactly while there is a ticket
for tables whose response would be applied and has not come. -/
theorem host_waits_iff (id : String) (connection : Connection) (mode : Mode)
    (saved : Option SavedConfig) (history : List Move) :
    let first := start id connection mode saved
    let state := (first.after history).session.refresh.state
    (lastBusy? (first.noticesOf history) = some .showBusy ↔ state = .fetchingTables) ∧
      (state = .fetchingTables ↔ TablesOutstanding first history) := by
  intro first state
  refine ⟨?_, fetchingTables_iff_outstanding id connection mode saved history⟩
  show lastBusy? (first.noticesOf history) = _ ↔ (first.after history).session.refresh.state = _
  clear state
  induction history using List.reverseRecOn with
  | nil => exact iff_of_false (fun h => nomatch h) fun h => nomatch h
  | append_singleton history m ih =>
    have hx : (first.after history).Stamped :=
      (stamped_start id connection mode saved).after history
    rw [noticesOf_snoc, lastBusy?_append, after_snoc]
    refine lastBusy_turn ih (fun n t ht hc hs => ?_) m
    obtain ⟨k, u, hu, hg, -⟩ :=
      (fetchingTables_iff_outstanding id connection mode saved history).1 hs
    obtain rfl := hx.unique hu ht (hg.trans (Refresh.isCurrent_iff.1 hc).symm)
    rw [ht] at hu
    cases hu

end Dialogue
end JoinWizard
