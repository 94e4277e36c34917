/-
# A failure lasts until it is mended

A response that reports a failure is shown to the user and leaves everything else alone: what is
selected and joined, what is known of the source, what waits to be restored.  But it closes the
gates, whatever the model is, and they stay closed through everything the user does to the model.

| what is done next | the failure |
| --- | --- |
| an edit, another mode, coming back to the step | lasts |
| a schema is selected before the step is entered | lasts, for nothing is asked for |
| a response that is stale, or fails again | lasts |
| a request, a switch of the connection | is over |
| a response that brings what was asked for | is over |

The last two rows are the only ways out (`failed_act_iff`).  No edit needs to know of the failure,
since all of them publish what `Session.gates` says, which looks at the refresh first.
-/

import JoinWizard.Proofs.Session.Commit
import JoinWizard.Proofs.Session.Dialogue
import JoinWizard.Proofs.Session.Notices

namespace JoinWizard

/-- The failure that a reply reports, if it reports one. -/
def Reply.failure? : Reply → Option HostError
  | schemas (.failed error) => some error
  | tables (.failed error) => some error
  | _ => none

namespace Refresh

variable {r : Refresh}

/-- Schemas end a failure if they are brought, and not if they are stale or fail again. -/
theorem failed_acceptSchemas_iff (hf : r.state = .failed) (response : SchemaResponse) :
    (r.acceptSchemas response).1.state = .failed ↔
      ¬ ∃ schemas, (r.acceptSchemas response).2 = .current schemas := by
  cases hc : r.isCurrent response.generation with
  | false => simp [acceptSchemas_of_stale hc, hf]
  | true =>
    cases hr : response.result with
    | error cause => simp [acceptSchemas_of_error hc hr, fail]
    | ok schemas => simp [acceptSchemas_of_ok hc hr]

/-- So do tables. -/
theorem failed_acceptTables_iff (hf : r.state = .failed) (response : TableResponse) :
    (r.acceptTables response).1.state = .failed ↔
      ¬ ∃ tables, (r.acceptTables response).2 = .current tables := by
  cases hc : r.isCurrent response.generation with
  | false => simp [acceptTables_of_stale hc, hf]
  | true =>
    cases hr : response.result with
    | error cause => simp [acceptTables_of_error hc hr, fail]
    | ok tables => simp [acceptTables_of_ok hc hr]

end Refresh

open Notice

namespace Session

variable {s : Session} {a : Action} {error : HostError} {later : List Action}

/-- A response of the current generation that reports a failure, and the failure as it is shown to
the user. -/
inductive Fails (s : Session) : Action → HostError → Prop
  | schemas {generation : Nat} (h : s.refresh.isCurrent generation = true) (connection : String)
    (cause : SourceError) :
    Fails s (.applySchemas ⟨generation, connection, .error cause⟩)
      { kind := .schemas
        message := "failed to fetch schemas for connection '" ++ connection ++ "'"
        detail := cause.message }
  | tables {generation : Nat} (h : s.refresh.isCurrent generation = true) (schema : String)
    (cause : SourceError) :
    Fails s (.applyTables ⟨generation, schema, .error cause⟩)
      { kind := .tables
        message := "failed to fetch tables for schema '" ++ schema ++ "'"
        detail := cause.message }

/-- An action that ends a failure: it asks for something, turns to another connection, or brings
what was asked for. -/
inductive Mends (s : Session) (a : Action) : Prop
  | asks {ticket : Ticket} (h : (s.act a).result.ticket? = some ticket)
  | switch {connection : Connection} (h : a = .setConnection connection)
  | schemas {schemas : List SchemaInfo} (h : (s.act a).result = .schemas (.current schemas))
  | tables {tables : List Table} (h : (s.act a).result = .tables (.current tables))

/-- None of the actions of a history ends a failure. -/
def Unmended (s : Session) : List Action → Prop
  | [] => True
  | a :: history => ¬ s.Mends a ∧ (s.act a).session.Unmended history

/-- An action that asks for nothing and brings nothing: an edit, another mode, coming back to the
step, a schema selected before the step is entered, a stale response. -/
def Harmless (s : Session) : Action → Prop
  | .addTables _ | .removeTables _ | .addJoin _ | .removeJoin _ | .setFact _ | .pickFact _
  | .setMode _ | .activateReverse => True
  | .selectSchema _ => s.activated = false
  | .applySchemas response => s.refresh.isCurrent response.generation = false
  | .applyTables response => s.refresh.isCurrent response.generation = false
  | .activateForward | .setConnection _ | .requestSchemas | .requestTables => False

/-- What a failure of a generation does to a session while it lasts. -/
structure BlockedByFailure (s : Session) (generation : Nat) : Prop where
  failed : s.refresh.state = .failed
  /-- The ticket that failed is current, so an answer to it may still come. -/
  generation_eq : s.refresh.generation = generation
  published : s.published = .blocked
  commit_refused : ∀ sink now name, s.commit sink now name = .error (.notReady .blocked)
  /-- The failure ends now exactly if it is mended. -/
  mended_iff : ∀ a, (s.act a).session.refresh.state ≠ .failed ↔ s.Mends a
  harmless : ∀ a, s.Harmless a → ¬ s.Mends a

/-! ## Reachable sessions -/

theorem Reachable.after (h : s.Reachable) (later : List Action) : (s.after later).Reachable := by
  obtain ⟨id, connection, mode, saved, history, rfl⟩ := h
  refine ⟨id, connection, mode, saved, history ++ later, ?_⟩
  exact List.foldl_append.symm

/-- The host of a reachable session knows its gates. -/
theorem Reachable.upToDate (h : s.Reachable) : s.UpToDate := by
  obtain ⟨id, connection, mode, saved, history, rfl⟩ := h
  have hstart : (start id connection mode saved).UpToDate := (gates_of_selection_nil rfl).symm
  exact (published_after (consistent_start id connection mode saved) hstart history).1

/-! ## The failure -/

/-- **A failure is shown and changes nothing else,** but that it closes the gates. -/
theorem Fails.act_eq (h : s.Fails a error) :
    ∃ busy, OnlyBusy busy ∧ (s.act a).result.failure? = some error ∧
      (s.act a).notices = busy ++ [.error error, .gates .blocked] ∧
      (s.act a).session =
        { s with
          refresh := { s.refresh with state := .failed, lastError := some error }
          published := .blocked } := by
  cases h with
  | @schemas generation h connection cause =>
    have hturn : s.applySchemas ⟨generation, connection, .error cause⟩ = _ :=
      applySchemas_of_error h rfl
    refine ⟨[], onlyBusy_nil, ?_⟩
    rw [act, hturn]
    exact ⟨rfl, rfl, rfl⟩
  | @tables generation h schema cause =>
    have hturn : s.applyTables ⟨generation, schema, .error cause⟩ = _ :=
      applyTables_of_error h rfl
    refine ⟨[.hideBusy], onlyBusy_hideBusy, ?_⟩
    rw [act, hturn]
    exact ⟨rfl, rfl, rfl⟩

/-! ## What ends it -/

/-- An own action brings nothing, so it can mend a failure only by a request or a switch. -/
theorem mends_own_iff (ha : a.isOwn) :
    s.Mends a ↔ (∃ connection, a = .setConnection connection) ∨
      ∃ ticket, (s.act a).result.ticket? = some ticket := by
  constructor
  · rintro (⟨h⟩ | ⟨h⟩ | ⟨h⟩ | ⟨h⟩)
    · exact .inr ⟨_, h⟩
    · exact .inl ⟨_, h⟩
    · exact absurd h (act_ne_schemas ha _)
    · exact absurd h (act_ne_tables ha _)
  · rintro (⟨connection, h⟩ | ⟨ticket, h⟩)
    · exact .switch h
    · exact .asks h

/-- Whatever is asked for, a refresh that has failed is left exactly with a ticket or a switch. -/
theorem failed_asks_iff (hf : s.refresh.state = .failed) {r : Refresh} {ticket : Option Ticket}
    {busy : List Notice} (h : Asks s a r ticket busy)
    (hswitch : ∀ connection, a ≠ .setConnection connection) :
    r.state = .failed ↔ ticket = none := by
  cases h with
  | nothing => exact iff_of_true hf rfl
  | schemas => exact iff_of_false (fun h => nomatch h) (fun h => nomatch h)
  | tables schema => exact iff_of_false (fun h => nomatch h) (fun h => nomatch h)
  | select schema => exact iff_of_true ((s.refresh.selectSchema_failed_iff schema).2 hf) rfl
  | switch connection h => exact absurd h (hswitch connection)

/-- Schemas mend a failure exactly if they are taken in. -/
theorem mends_applySchemas_iff (response : SchemaResponse) :
    s.Mends (.applySchemas response) ↔
      ∃ schemas, (s.refresh.acceptSchemas response).2 = .current schemas := by
  rw [← result_applySchemas]
  constructor
  · rintro (⟨h⟩ | ⟨h⟩ | ⟨h⟩ | ⟨h⟩)
    · cases h
    · cases h
    · exact ⟨_, Reply.schemas.inj h⟩
    · cases h
  · rintro ⟨schemas, h⟩
    exact .schemas (congrArg Reply.schemas h)

/-- Tables mend a failure exactly if they are taken in. -/
theorem mends_applyTables_iff (response : TableResponse) :
    s.Mends (.applyTables response) ↔
      ∃ tables, (s.refresh.acceptTables response).2 = .current tables := by
  rw [← result_applyTables]
  constructor
  · rintro (⟨h⟩ | ⟨h⟩ | ⟨h⟩ | ⟨h⟩)
    · cases h
    · cases h
    · cases h
    · exact ⟨_, Reply.tables.inj h⟩
  · rintro ⟨tables, h⟩
    exact .tables (congrArg Reply.tables h)

/-- **A failure is over exactly with an action that mends it.** -/
theorem failed_act_iff (hf : s.refresh.state = .failed) (a : Action) :
    (s.act a).session.refresh.state = .failed ↔ ¬ s.Mends a := by
  have hown (ha : a.isOwn) : (s.act a).session.refresh.state = .failed ↔ ¬ s.Mends a := by
    rw [mends_own_iff ha, not_or]
    by_cases hswitch : ∃ connection, a = .setConnection connection
    · obtain ⟨connection, rfl⟩ := hswitch
      exact iff_of_false (fun h => nomatch h) fun h => h.1 ⟨connection, rfl⟩
    · have hne : ∀ connection, a ≠ .setConnection connection := fun connection h =>
        hswitch ⟨connection, h⟩
      rw [failed_asks_iff hf (s.asks_act ha) hne, and_iff_right hswitch,
        Option.eq_none_iff_forall_ne_some, not_exists]
  cases a with
  | applySchemas response =>
    show (s.applySchemas response).session.refresh.state = .failed ↔ _
    rw [refresh_applySchemas, mends_applySchemas_iff]
    exact Refresh.failed_acceptSchemas_iff hf response
  | applyTables response =>
    show (s.applyTables response).session.refresh.state = .failed ↔ _
    rw [refresh_applyTables, mends_applyTables_iff]
    exact Refresh.failed_acceptTables_iff hf response
  | _ => exact hown rfl

/-- **What asks for nothing and brings nothing mends nothing.** -/
theorem Harmless.not_mends (h : s.Harmless a) : ¬ s.Mends a := by
  cases a with
  | applySchemas response =>
    rw [mends_applySchemas_iff, Refresh.acceptSchemas_of_stale h]
    exact fun hm => nomatch hm
  | applyTables response =>
    rw [mends_applyTables_iff, Refresh.acceptTables_of_stale h]
    exact fun hm => nomatch hm
  | selectSchema schema =>
    have hnone : (s.act (.selectSchema schema)).result.ticket? = none := by
      rw [act, selectSchema, if_neg (by simp [show s.activated = false from h])]
      rfl
    rw [mends_own_iff rfl, hnone]
    rintro (⟨connection, h⟩ | ⟨ticket, h⟩) <;> cases h
  | activateForward | setConnection | requestSchemas | requestTables => cases h
  | _ =>
    rw [mends_own_iff rfl]
    rintro (⟨connection, h⟩ | ⟨ticket, h⟩) <;> cases h

/-! ## While it lasts -/

/-- What neither asks for anything nor switches takes no new generation after a failure, since no
tables are awaited that could be given up. -/
theorem generation_asks (hf : s.refresh.state = .failed) {r : Refresh} {busy : List Notice}
    (h : Asks s a r none busy) (hswitch : ∀ connection, a ≠ .setConnection connection) :
    r.generation = s.refresh.generation := by
  cases h with
  | nothing => rfl
  | select schema =>
    have hidle : s.refresh.isFetchingTables = false := by
      rw [Refresh.isFetchingTables, hf]
      rfl
    rw [Refresh.selectSchema, hidle]
    rfl
  | switch connection h => exact absurd h (hswitch connection)

/-- **While a failure lasts the ticket that failed stays current.** -/
theorem generation_act (hf : s.refresh.state = .failed) (hm : ¬ s.Mends a) :
    (s.act a).session.refresh.generation = s.refresh.generation := by
  have hown (ha : a.isOwn) : (s.act a).session.refresh.generation = s.refresh.generation := by
    rw [mends_own_iff ha, not_or] at hm
    obtain ⟨hswitch, hticket⟩ := hm
    have hasks := s.asks_act ha
    rw [Option.eq_none_iff_forall_ne_some.2 fun t ht => hticket ⟨t, ht⟩] at hasks
    exact generation_asks hf hasks fun connection h => hswitch ⟨connection, h⟩
  cases a with
  | applySchemas response =>
    show (s.applySchemas response).session.refresh.generation = _
    rw [refresh_applySchemas, Exchange.generation_acceptSchemas]
  | applyTables response =>
    show (s.applyTables response).session.refresh.generation = _
    rw [refresh_applyTables, Exchange.generation_acceptTables]
  | _ => exact hown rfl

/-- **A failure lasts over any history that does not mend it,** and the host is told of closed gates
only. -/
theorem failed_after (hs : s.Reachable) (hf : s.refresh.state = .failed)
    (hm : s.Unmended later) :
    (s.after later).refresh.state = .failed ∧
      (s.after later).refresh.generation = s.refresh.generation ∧
      ∀ g ∈ sentGates (s.noticesOf later), g = .blocked := by
  induction later generalizing s with
  | nil => exact ⟨hf, rfl, fun g hg => absurd hg List.not_mem_nil⟩
  | cons a later ih =>
    obtain ⟨ha, hlater⟩ := hm
    have hfailed : (s.act a).session.refresh.state = .failed := (failed_act_iff hf a).2 ha
    obtain ⟨hstate, hgeneration, hsent⟩ := ih (hs.after [a]) hfailed hlater
    refine ⟨hstate, hgeneration.trans (generation_act hf ha), fun g hg => ?_⟩
    rw [noticesOf, sentGates_append, List.mem_append] at hg
    rcases hg with hg | hg
    · have hd := disciplined_act hs.consistent hs.upToDate a
      exact (hd.sent_final g hg).trans (gates_of_failed hfailed)
    · exact hsent g hg

/-- A session that has failed is blocked by it. -/
theorem blockedByFailure (hs : s.Reachable) (hf : s.refresh.state = .failed) :
    s.BlockedByFailure s.refresh.generation where
  failed := hf
  generation_eq := rfl
  published := hs.upToDate.trans (gates_of_failed hf)
  commit_refused sink now name := by
    rw [commit, gates_of_failed hf]
    rfl
  mended_iff a := by rw [ne_eq, failed_act_iff hf, not_not]
  harmless _ h := h.not_mends

/-- **A failure lasts until it is mended.**  It is shown to the user with what failed and why,
closes the gates, and changes nothing else of the session.  The gates stay closed, the host is told
of no others, and nothing can be committed, whatever is done, until something is asked for, the
connection is switched, or an answer to the ticket that failed brings what was asked for. -/
theorem failure_lasts_until_mended (hs : s.Reachable) (h : s.Fails a error) :
    let failed := (s.act a).session
    failed =
        { s with
          refresh := { s.refresh with state := .failed, lastError := some error }
          published := .blocked } ∧
      (s.act a).result.failure? = some error ∧
      (∃ busy, OnlyBusy busy ∧ (s.act a).notices = busy ++ [.error error, .gates .blocked]) ∧
      ∀ later, failed.Unmended later →
        (failed.after later).BlockedByFailure s.refresh.generation ∧
          ∀ g ∈ sentGates (failed.noticesOf later), g = .blocked := by
  intro failed
  obtain ⟨busy, hbusy, hresult, hnotices, hfailed⟩ := h.act_eq
  refine ⟨hfailed, hresult, ⟨busy, hbusy, hnotices⟩, fun later hlater => ?_⟩
  have hreachable : failed.Reachable := hs.after [a]
  have hstate : failed.refresh.state = .failed := by rw [show failed = _ from hfailed]
  have hgeneration : failed.refresh.generation = s.refresh.generation := by
    rw [show failed = _ from hfailed]
  obtain ⟨hlasts, hsame, hsent⟩ := failed_after hreachable hstate hlater
  refine ⟨?_, hsent⟩
  rw [← hgeneration, ← hsame]
  exact blockedByFailure (hreachable.after later) hlasts

/-- The tables of the shop are asked for again, and the request fails. -/
def shopFails : Action := .applyTables ⟨2, "shop", .error (.schemaNotFound "shop")⟩

/-- A join is taken back, another mode and another schema are chosen, the step is come back to, a
fact table is chosen, and the tables that were asked for first come again. -/
def shopEdits : List Action := [
  .removeJoin ⟨⟨"orders", "customer"⟩, ⟨"customers", "id"⟩⟩,
  .setMode .star,
  .selectSchema "crm",
  .activateReverse,
  .setFact (some "orders"),
  .applyTables ⟨1, "shop", .ok shopTables⟩]

/-- The model of the shop is complete, before and after it is edited, but while the failure lasts it
cannot be committed. -/
theorem failure_lasts_until_mended_shop :
    let s := shopSession.after [.requestTables]
    let failed := (s.act shopFails).session
    s.Reachable ∧ s.Fails shopFails (.ofTables "shop" (.schemaNotFound "shop")) ∧
      failed.Unmended shopEdits ∧ s.gates.canComplete = true ∧
      (failed.after shopEdits).BlockedByFailure 2 ∧
      ((failed.after shopEdits).act (.applyTables ⟨2, "shop", .ok shopTables⟩)).session.gates =
        ⟨true, true⟩ := by
  intro s failed
  have hs : s.Reachable := reachable_shopSession.after [.requestTables]
  have hfails : s.Fails shopFails (.ofTables "shop" (.schemaNotFound "shop")) :=
    .tables rfl "shop" (.schemaNotFound "shop")
  have hunmended : failed.Unmended shopEdits := by
    refine ⟨?_, ?_, ?_, ?_, ?_, ?_, trivial⟩ <;> apply Harmless.not_mends
    · trivial
    · trivial
    · rfl
    · trivial
    · trivial
    · rfl
  obtain ⟨-, -, -, hlasts⟩ := failure_lasts_until_mended hs hfails
  exact ⟨hs, hfails, hunmended, by decide, (hlasts shopEdits hunmended).1, by decide⟩

end Session
end JoinWizard
