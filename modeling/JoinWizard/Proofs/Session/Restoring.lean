/-
# A saved configuration is restored once

A session that starts with a saved configuration waits for tables that it applies to.  Two things
end the wait (`Session.EndsWait`), whichever comes first:

| what comes | the configuration | the model |
| --- | --- | --- |
| tables whose catalog it applies to | is pending no more | is what it makes of the catalog |
| a switch of the connection | is pending no more | is empty |

Anything else leaves it as it was: edits, requests, schemas, failures, late responses, and tables of
a catalog it does not apply to.  Tables come with a response of the latest generation that is no
failure, and with nothing else (`Session.act_cases`).  While the configuration waits the session is
on the connection it started on, so the tables it meets are never those of another.

When the wait has ended nothing waits ever again.  Tables that arrive from then on take from the
model what their catalog does not bear out (`Session.Pruned`) and add nothing to it.
-/

import JoinWizard.Proofs.Session.Unchanged

namespace JoinWizard

/-- Whether an action asks for schemas or tables, or takes in a response with them. -/
def Action.isFetch : Action → Bool
  | requestSchemas | requestTables | applySchemas _ | applyTables _ => true
  | _ => false

namespace Session

variable {s u : Session} {config : SavedConfig} {a : Action} {history : List Action}
  {asked : String} {tables : List Table}

/-- Whether an action is a response of the latest generation, with tables whose catalog a
configuration applies to. -/
def Suits (s : Session) (config : SavedConfig) (a : Action) : Prop :=
  ∃ response tables, a = .applyTables response ∧
    s.refresh.isCurrent response.generation = true ∧ response.result = .ok tables ∧
    config.appliesTo (s.act a).session.catalog.schema = true

/-- Whether an action ends the wait of a configuration. -/
def EndsWait (s : Session) (config : SavedConfig) (a : Action) : Prop :=
  (∃ connection, a = .setConnection connection) ∨ s.Suits config a

/-- Whether nothing in a history ends the wait of a configuration. -/
def Waits (s : Session) (config : SavedConfig) : List Action → Prop
  | [] => True
  | a :: history => ¬ s.EndsWait config a ∧ (s.act a).session.Waits config history

/-- Whether the model is what a configuration makes of the catalog. -/
structure Restored (s : Session) (config : SavedConfig) : Prop where
  selection : s.selection = ({} : Selection).add (config.resolve s.catalog).tables
  joins : s.joins = ({} : JoinGraph).addAll (config.resolve s.catalog).joins s.selection
  fact : s.fact = .ofName (config.resolve s.catalog).factTable s.selection

/-- Whether the model of a later session is what its catalog leaves of the model before. -/
structure Pruned (s t : Session) : Prop where
  selection :
    t.selection = (s.selection.retain fun u => t.catalog.contains u.name).2.redefine
      t.catalog.tables
  joins : t.joins = (s.joins.cascadeFields t.selection).2
  fact : t.fact = s.fact.revalidate t.selection

/-- Whether the model of a later session is the one before. -/
structure Untouched (s t : Session) : Prop where
  selection : t.selection = s.selection
  joins : t.joins = s.joins
  fact : t.fact = s.fact

/-! ## The tables that arrive -/

/-- **Tables arrive with a response** of the latest generation that holds them, and with nothing
else.  Any other action switches the connection or leaves the pending configuration alone. -/
theorem act_cases (s : Session) (a : Action) :
    (∃ response tables, a = .applyTables response ∧
      s.refresh.isCurrent response.generation = true ∧ response.result = .ok tables) ∨
    (∃ connection, a = .setConnection connection) ∨ s.Lasts (s.act a).session := by
  by_cases hbrings : ∃ tables, (s.act a).result = .tables (.current tables)
  · obtain ⟨tables, hcurrent⟩ := hbrings
    cases a with
    | applyTables response =>
      exact .inl ⟨response, tables, rfl, applyTables_current_iff.1 (Reply.tables.inj hcurrent)⟩
    | applySchemas response => cases hcurrent
    | _ => exact absurd hcurrent (act_ne_tables rfl _)
  · by_cases hswitch : ∃ connection, a = .setConnection connection
    · exact .inr (.inl hswitch)
    · exact .inr (.inr (lasts_act (not_exists.1 hswitch) (not_exists.1 hbrings)))

/-- That response puts its tables in place, and then the host is told the gates. -/
theorem act_applyTables_of_ok {response : TableResponse}
    (hc : s.refresh.isCurrent response.generation = true) (hr : response.result = .ok tables) :
    s.act (.applyTables response) =
      ((s.takeTables response.schema tables).publish [.hideBusy] (.current tables)).map
        .tables := by
  rw [act, applyTables_of_ok hc hr]

/-- Nothing is restored where nothing is pending. -/
theorem restorePending_of_none (h : u.pending = none) : u.restorePending = u := by
  rw [restorePending, h]

/-- Nothing is restored over a catalog that the pending configuration does not apply to. -/
theorem restorePending_of_not_appliesTo (hpending : u.pending = some config)
    (h : config.appliesTo u.catalog.schema = false) : u.restorePending = u := by
  rw [restorePending, hpending]
  exact if_neg (by rw [h]; exact Bool.false_ne_true)

/-- Tables that a pending configuration does not apply to leave it pending. -/
theorem pending_takeTables (hpending : u.pending = some config)
    (h : config.appliesTo (schemaLabel asked tables) = false) :
    (u.takeTables asked tables).pending = some config := by
  rw [takeTables, restorePending_of_not_appliesTo ?_ h]
  · exact hpending
  · exact hpending

/-- Tables that a pending configuration applies to turn it into the model. -/
theorem restored_takeTables (hpending : u.pending = some config)
    (h : config.appliesTo (schemaLabel asked tables) = true) :
    (u.takeTables asked tables).pending = none ∧ (u.takeTables asked tables).Restored config := by
  obtain ⟨installed, -, htake⟩ := takeTables_of_appliesTo hpending h
  rw [htake]
  exact ⟨rfl, rfl, rfl, rfl⟩

/-- Where nothing is pending, tables only prune the model. -/
theorem pruned_takeTables (hpending : u.pending = none) (asked : String) (tables : List Table) :
    (u.takeTables asked tables).pending = none ∧ u.Pruned (u.takeTables asked tables) := by
  rw [takeTables, restorePending_of_none]
  · exact ⟨hpending, rfl, rfl, rfl⟩
  · exact hpending

theorem Pruned.names_sublist {t : Session} (h : s.Pruned t) :
    t.selection.names.Sublist s.selection.names := by
  rw [h.selection, Selection.names_redefine]
  exact Table.names_sublist List.filter_sublist

/-! ## One action -/

/-- **What does not end the wait leaves the configuration pending.** -/
theorem pending_act_of_not_ends (hpending : s.pending = some config)
    (h : ¬ s.EndsWait config a) : (s.act a).session.pending = some config := by
  rcases s.act_cases a with ⟨response, tables, rfl, hc, hr⟩ | hswitch | hlasts
  · have hact := act_applyTables_of_ok hc hr
    have hlabel : config.appliesTo (schemaLabel response.schema tables) = false := by
      rw [Bool.eq_false_iff]
      refine fun happlies => h (.inr ⟨response, tables, rfl, hc, hr, ?_⟩)
      rw [hact]
      show config.appliesTo (s.takeTables response.schema tables).catalog.schema = true
      rw [catalog_takeTables]
      exact happlies
    rw [hact]
    exact pending_takeTables hpending hlabel
  · exact absurd (.inl hswitch) h
  · exact hlasts.pending.trans hpending

/-- **Tables that a pending configuration applies to restore it,** before the host is told the
gates. -/
theorem restored_of_suits (hpending : s.pending = some config) (h : s.Suits config a) :
    (s.act a).session.pending = none ∧ (s.act a).session.Restored config ∧
      (s.act a).notices = [.hideBusy, .gates (s.act a).session.gates] := by
  obtain ⟨response, tables, rfl, hc, hr, happlies⟩ := h
  rw [act_applyTables_of_ok hc hr] at happlies ⊢
  have hlabel : config.appliesTo (s.takeTables response.schema tables).catalog.schema = true :=
    happlies
  rw [catalog_takeTables] at hlabel
  obtain ⟨hnone, hselection, hjoins, hfact⟩ := restored_takeTables hpending hlabel
  exact ⟨hnone, ⟨hselection, hjoins, hfact⟩, rfl⟩

/-- **Where nothing is pending, nothing comes to be.** -/
theorem pending_act_of_none (hpending : s.pending = none) (a : Action) :
    (s.act a).session.pending = none := by
  rcases s.act_cases a with ⟨response, tables, rfl, hc, hr⟩ | ⟨connection, rfl⟩ | hlasts
  · rw [act_applyTables_of_ok hc hr]
    exact (pruned_takeTables hpending response.schema tables).1
  · rfl
  · exact hlasts.pending.trans hpending

/-- **Where nothing is pending, tables that arrive only prune the model.** -/
theorem pruned_applyTables (hpending : s.pending = none) {response : TableResponse}
    (hc : s.refresh.isCurrent response.generation = true) (hr : response.result = .ok tables) :
    s.Pruned (s.applyTables response).session := by
  rw [applyTables_of_ok hc hr]
  obtain ⟨-, hselection, hjoins, hfact⟩ := pruned_takeTables hpending response.schema tables
  exact ⟨hselection, hjoins, hfact⟩

/-- A response that is late, or a failure, leaves the model alone. -/
theorem untouched_applyTables {response : TableResponse}
    (h : s.refresh.isCurrent response.generation = false ∨
      ∃ cause, response.result = .error cause) :
    s.Untouched (s.applyTables response).session := by
  cases hc : s.refresh.isCurrent response.generation with
  | false =>
    rw [applyTables_of_stale hc]
    exact ⟨rfl, rfl, rfl⟩
  | true =>
    obtain ⟨cause, hr⟩ := h.resolve_left (by simp [hc])
    rw [applyTables_of_error hc hr]
    exact ⟨rfl, rfl, rfl⟩

/-- So do schemas, whatever becomes of them. -/
theorem untouched_applySchemas (s : Session) (response : SchemaResponse) :
    s.Untouched (s.applySchemas response).session := by
  unfold applySchemas
  dsimp only
  split <;> exact ⟨rfl, rfl, rfl⟩

/-- Where nothing is pending, asking and answering add nothing to the selection. -/
theorem names_sublist_of_isFetch (hpending : s.pending = none) (ha : a.isFetch = true) :
    (s.act a).session.selection.names.Sublist s.selection.names := by
  cases a with
  | requestSchemas =>
    obtain ⟨_, _, h⟩ := s.sameModel_requestSchemas
    show s.requestSchemas.session.selection.names.Sublist _
    rw [h]
  | requestTables =>
    obtain ⟨_, _, h⟩ := s.sameModel_requestTables
    show s.requestTables.session.selection.names.Sublist _
    rw [h]
  | applySchemas response =>
    show (s.applySchemas response).session.selection.names.Sublist _
    rw [(s.untouched_applySchemas response).selection]
  | applyTables response =>
    show (s.applyTables response).session.selection.names.Sublist _
    cases hc : s.refresh.isCurrent response.generation with
    | false => rw [(untouched_applyTables (.inl hc)).selection]
    | true =>
      cases hr : response.result with
      | error cause => rw [(untouched_applyTables (.inr ⟨cause, hr⟩)).selection]
      | ok tables => exact (pruned_applyTables hpending hc hr).names_sublist
  | _ => cases ha

/-- Nothing but a switch changes the connection. -/
theorem connection_act (hswitch : ∀ connection, a ≠ .setConnection connection) :
    (s.act a).session.connection = s.connection := by
  cases ha : a.isOwn with
  | true => exact (s.asks_act ha).connection_eq hswitch
  | false =>
    cases a with
    | applySchemas response =>
      show (s.applySchemas response).session.refresh.connection = _
      rw [refresh_applySchemas, Refresh.connection_acceptSchemas]
      rfl
    | applyTables response =>
      show (s.applyTables response).session.refresh.connection = _
      rw [refresh_applyTables, Refresh.connection_acceptTables]
      rfl
    | _ => cases ha

/-! ## Histories -/

/-- Nothing that waits no more waits again. -/
theorem pending_after_of_none (hpending : s.pending = none) (history : List Action) :
    (s.after history).pending = none := by
  induction history generalizing s with
  | nil => exact hpending
  | cons a history ih => exact ih (pending_act_of_none hpending a)

/-- **A configuration is pending exactly as long as it waits.** -/
theorem pending_after (hpending : s.pending = some config) (history : List Action) :
    (s.Waits config history → (s.after history).pending = some config ∧
        (s.after history).connection = s.connection) ∧
      (¬ s.Waits config history → (s.after history).pending = none) := by
  induction history generalizing s with
  | nil => exact ⟨fun _ => ⟨hpending, rfl⟩, fun h => absurd trivial h⟩
  | cons a history ih =>
    by_cases hends : s.EndsWait config a
    · refine ⟨fun h => absurd hends h.1, fun _ => ?_⟩
      refine pending_after_of_none (s := (s.act a).session) ?_ history
      rcases hends with ⟨connection, rfl⟩ | hsuits
      · rfl
      · exact (restored_of_suits hpending hsuits).1
    · have hact : (s.act a).session.connection = s.connection :=
        connection_act (not_exists.1 (not_or.1 hends).1)
      obtain ⟨hwaits, hended⟩ := ih (pending_act_of_not_ends hpending hends)
      refine ⟨fun h => ?_, fun h => hended fun hlater => h ⟨hends, hlater⟩⟩
      exact ⟨(hwaits h.2).1, (hwaits h.2).2.trans hact⟩

/-- Where nothing is pending, no asking and answering adds to the selection. -/
theorem names_sublist_after (hpending : s.pending = none) {fetch : List Action}
    (h : ∀ a ∈ fetch, a.isFetch = true) :
    (s.after fetch).selection.names.Sublist s.selection.names := by
  induction fetch generalizing s with
  | nil => exact List.Sublist.refl _
  | cons a fetch ih =>
    obtain ⟨ha, hfetch⟩ := List.forall_mem_cons.1 h
    exact (ih (pending_act_of_none hpending a) hfetch).trans
      (names_sublist_of_isFetch hpending ha)

/-! ## A full refresh -/

section Refresh

variable {σ : Type} (p : Provider (StateM σ)) (w : σ)

/-- A fetch of schemas is a request and a response. -/
theorem exists_response_fetchSchemas (s : Session) :
    ∃ response, ((s.fetchSchemas p).run w).1.session =
      s.after [.requestSchemas, .applySchemas response] :=
  ⟨_, rfl⟩

/-- A fetch of tables is a request and a response. -/
theorem exists_response_fetchTables (s : Session) :
    ∃ response, ((s.fetchTables p).run w).1.session =
      s.after [.requestTables, .applyTables response] :=
  ⟨_, rfl⟩

/-- A full refresh is a fetch of schemas, and perhaps one of tables after it. -/
theorem session_refreshAll (s : Session) :
    ((s.refreshAll p).run w).1.session = ((s.fetchSchemas p).run w).1.session ∨
      ∃ v, ((s.refreshAll p).run w).1.session =
        ((((s.fetchSchemas p).run w).1.session.fetchTables p).run v).1.session := by
  unfold refreshAll
  simp only [StateT.run_bind]
  obtain ⟨⟨session, notices, result⟩, v⟩ := (s.fetchSchemas p).run w
  cases result with
  | current schemas => exact .inr ⟨v, rfl⟩
  | stale => exact .inl rfl
  | failed error => exact .inl rfl

/-- **A full refresh is a history** of requests and responses. -/
theorem exists_history_refreshAll (s : Session) :
    ∃ fetch : List Action, (∀ a ∈ fetch, a.isFetch = true) ∧
      ((s.refreshAll p).run w).1.session = s.after fetch := by
  obtain ⟨schemas, hschemas⟩ := exists_response_fetchSchemas p w s
  rcases session_refreshAll p w s with h | ⟨v, h⟩
  · refine ⟨[.requestSchemas, .applySchemas schemas], ?_, h.trans hschemas⟩
    simp [Action.isFetch]
  · obtain ⟨tables, htables⟩ := exists_response_fetchTables p v
      ((s.fetchSchemas p).run w).1.session
    rw [htables, hschemas] at h
    refine ⟨[.requestSchemas, .applySchemas schemas, .requestTables, .applyTables tables], ?_, h⟩
    simp [Action.isFetch]

end Refresh

/-! ## Once, and never across connections -/

/-- **A saved configuration is restored at most once,** by the first tables that it applies to, and
never over those of another connection.

Over a history it stays pending exactly as long as nothing ends the wait, and that long the session
is on the connection it started on.  Tables that end the wait make it the model before the host is
told the gates, and a switch leaves no model at all.  Once the wait has ended nothing is pending any
more: tables that come only prune the model, a response that is late or a failure leaves it alone,
and neither a response nor a full refresh, which is a history of requests and responses, adds
anything to the selection.  The tables that come are those of a response that is accepted as
current. -/
theorem restored_once (id : String) (connection : Connection) (mode : Mode) (config : SavedConfig)
    (history : List Action) :
    let first := start id connection mode (some config)
    let s := first.after history
    (first.Waits config history ↔ s.pending = some config) ∧
      (¬ first.Waits config history ↔ s.pending = none) ∧
      (s.pending = some config → s.connection = connection ∧
        (∀ a, s.Suits config a →
          (s.act a).session.pending = none ∧ (s.act a).session.Restored config ∧
            (s.act a).notices = [.hideBusy, .gates (s.act a).session.gates]) ∧
        ∀ other, let switched := (s.act (.setConnection other)).session
          switched.pending = none ∧ switched.catalog = {} ∧ switched.selection = {} ∧
            switched.joins = {} ∧ switched.fact = {}) ∧
      (s.pending = none →
        (∀ later, (s.after later).pending = none) ∧
        (∀ response tables, s.refresh.isCurrent response.generation = true →
          response.result = .ok tables → s.Pruned (s.applyTables response).session) ∧
        (∀ response, s.refresh.isCurrent response.generation = false ∨
          (∃ cause, response.result = .error cause) →
            s.Untouched (s.applyTables response).session) ∧
        (∀ response, s.Untouched (s.applySchemas response).session) ∧
        ∀ fetch : List Action, (∀ a ∈ fetch, a.isFetch = true) →
          (s.after fetch).selection.names.Sublist s.selection.names) ∧
      (∀ response tables, (s.applyTables response).result = .current tables ↔
        s.refresh.isCurrent response.generation = true ∧ response.result = .ok tables) ∧
      ∀ (σ : Type) (p : Provider (StateM σ)) (w : σ), ∃ fetch : List Action,
        (∀ a ∈ fetch, a.isFetch = true) ∧ ((s.refreshAll p).run w).1.session = s.after fetch := by
  intro first s
  obtain ⟨hwaits, hended⟩ := pending_after (show first.pending = some config from rfl) history
  have hpending : s.pending = some config → first.Waits config history := by
    intro h
    by_contra hw
    exact Option.some_ne_none _ (h.symm.trans (hended hw))
  refine ⟨⟨fun h => (hwaits h).1, hpending⟩, ⟨hended, fun h hw => ?_⟩, fun h => ?_, fun h => ?_,
    fun response tables => applyTables_current_iff, fun σ p w => s.exists_history_refreshAll p w⟩
  · exact Option.some_ne_none _ ((hwaits hw).1.symm.trans h)
  · refine ⟨(hwaits (hpending h)).2, fun a ha => restored_of_suits h ha, fun other => ?_⟩
    exact ⟨rfl, rfl, rfl, rfl, rfl⟩
  · exact ⟨pending_after_of_none h, fun response tables hc hr => pruned_applyTables h hc hr,
      fun response hnone => untouched_applyTables hnone, s.untouched_applySchemas,
      fun fetch hfetch => names_sublist_after h hfetch⟩

end Session
end JoinWizard
