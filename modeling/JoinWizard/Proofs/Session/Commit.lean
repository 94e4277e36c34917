/-
# What is committed is restored

A committed session comes back: the row it leaves in the store is read as the record that was
written, a session on the same source is given its configuration, and the first tables that arrive,
if they are those the committed session had, turn the configuration into the model that was
committed.

| stage | why nothing is lost |
| --- | --- |
| snapshot, by name | each selected table is the catalog's table of its name |
| texts of the row | written JSON is read back (`ofJsonText_toJsonText`) |
| context | it depends on the driver and the connection string alone |
| waiting for tables | only tables or a switch end it (`Session.lasts_after`) |
| resolving, declaring the joins | the model was consistent (`Consistent.restore_toConfig`) |
-/

import JoinWizard.Proofs.SavedConfig
import JoinWizard.Proofs.Session.Lasting
import JoinWizard.Proofs.Store
import JoinWizard.Session.Commit

namespace JoinWizard

/-- Connections to one source have one context, whatever they are called. -/
theorem Connection.context_congr {c d : Connection} (hdriver : c.driver = d.driver)
    (hstring : c.connectionString = d.connectionString) : c.context = d.context := by
  rw [context, context, contextBytes, contextBytes, hdriver, hstring]

namespace Session

variable {s u : Session} {store committed : Store} {now : Int64} {name : String}
  {snapshot : Snapshot}

/-- A commit that takes place writes the snapshot of the session. -/
theorem commit_store_eq_ok
    (h : s.commit (.store store) now name = .ok (snapshot, .store committed)) :
    snapshot = s.snapshot name ∧ committed = store.commit (s.snapshot name) now := by
  unfold commit at h
  split at h
  · cases h
    exact ⟨rfl, rfl⟩
  · cases h

/-- A session with open gates is committed. -/
theorem commit_store_of_open (h : u.gates.canComplete = true) :
    u.commit (.store store) now name =
      .ok (u.snapshot name, .store (store.commit (u.snapshot name) now)) := by
  rw [commit, if_pos h]
  rfl

/-- A session with closed gates is not committed. -/
theorem commit_store_of_closed (h : ¬u.gates.canComplete = true) :
    u.commit (.store store) now name = .error (.notReady u.gates) := by
  rw [commit, if_neg h]

/-- **A committed configuration is loaded again** under its name and in its context, from any store
that has the row the commit wrote. -/
theorem loadConfig_of_commit {later : Store}
    (h : s.commit (.store store) now name = .ok (snapshot, .store committed))
    (hrow : later.rows.find? name = committed.rows.find? name) :
    later.loadConfig name s.connection.context = .ok (some (s.snapshot name).toConfig) := by
  obtain ⟨-, rfl⟩ := commit_store_eq_ok h
  have hwritten : (store.commit (s.snapshot name) now).rows.find? name =
      some (.ofRecord (.ofSnapshot (s.snapshot name) now)) :=
    Store.find?_rows_save.trans (if_pos rfl)
  exact Store.loadConfig_of_row (r := .ofSnapshot (s.snapshot name) now) (hrow.trans hwritten)

/-- Sessions with one model over one catalog are saved by name as one configuration. -/
theorem toConfig_congr (hcatalog : u.catalog = s.catalog) (hselection : u.selection = s.selection)
    (hjoins : u.joins = s.joins) (hfact : u.fact = s.fact) :
    (u.snapshot name).toConfig = (s.snapshot name).toConfig := by
  rw [Snapshot.toConfig, Snapshot.toConfig]
  simp only [Session.snapshot, hcatalog, hselection, hjoins, hfact]

/-! ## The tables arrive -/

theorem catalog_restorePending (u : Session) : u.restorePending.catalog = u.catalog := by
  unfold restorePending
  split
  · rfl
  · split <;> rfl

theorem catalog_takeTables (u : Session) (asked : String) (tables : List Table) :
    (u.takeTables asked tables).catalog = .ofTables (schemaLabel asked tables) tables :=
  catalog_restorePending _

/-- A pending configuration that applies to the tables that arrive is restored over them. -/
theorem takeTables_of_appliesTo {asked : String} {tables : List Table} {config : SavedConfig}
    (hpending : u.pending = some config)
    (happlies : config.appliesTo (schemaLabel asked tables) = true) :
    ∃ installed : Session, installed.catalog = .ofTables (schemaLabel asked tables) tables ∧
      u.takeTables asked tables = { installed.restore config with pending := none } := by
  obtain ⟨ready, hsame, htake⟩ : ∃ ready : Session, ready.pending = u.pending ∧
      u.takeTables asked tables =
        (ready.installCatalog (.ofTables (schemaLabel asked tables) tables)).restorePending :=
    ⟨{ u with refresh := { u.refresh with state := .tablesReady, lastError := none } }, rfl, rfl⟩
  have hinstalled : (ready.installCatalog (.ofTables (schemaLabel asked tables) tables)).pending =
      some config := hsame.trans hpending
  refine ⟨ready.installCatalog (.ofTables (schemaLabel asked tables) tables), rfl, ?_⟩
  rw [htake, restorePending, hinstalled]
  exact if_pos happlies

/-- **A session with a consistent session's configuration pending becomes that session's model**
when the tables of its catalog arrive. -/
theorem Consistent.takeTables_toConfig (h : s.Consistent) {asked : String} {tables : List Table}
    (hpending : u.pending = some (s.snapshot name).toConfig)
    (hcatalog : (u.takeTables asked tables).catalog = s.catalog) :
    (u.takeTables asked tables).selection = s.selection ∧
      (u.takeTables asked tables).joins = s.joins ∧ (u.takeTables asked tables).fact = s.fact := by
  have hlabel : Catalog.ofTables (schemaLabel asked tables) tables = s.catalog :=
    (catalog_takeTables u asked tables).symm.trans hcatalog
  have happlies : (s.snapshot name).toConfig.appliesTo (schemaLabel asked tables) = true := by
    have hschema : s.catalog.schema = schemaLabel asked tables := by rw [← hlabel]; rfl
    show (s.catalog.schema.isNone || s.catalog.schema = schemaLabel asked tables) = true
    rw [hschema, Bool.or_eq_true]
    exact .inr (decide_eq_true rfl)
  obtain ⟨installed, hinstalled, htake⟩ := takeTables_of_appliesTo hpending happlies
  have hrestore : installed.restore (s.snapshot name).toConfig =
      { installed with selection := s.selection, joins := s.joins, fact := s.fact } :=
    h.restore_toConfig (hinstalled.trans hlabel) s.catalog.schema
  rw [htake, hrestore]
  exact ⟨rfl, rfl, rfl⟩

/-- A response that is applied puts its tables in place. -/
theorem applyTables_of_current {response : TableResponse} {tables : List Table}
    (h : (u.applyTables response).result = .current tables) :
    ∃ before, (u.applyTables response).session =
      ((u.takeTables response.schema tables).publish before ()).session := by
  obtain ⟨hc, hr⟩ := applyTables_current_iff.1 h
  rw [applyTables_of_ok hc hr]
  exact ⟨[], rfl⟩

/-! ## Commit and restore -/

/-- Whether some history leads to a session from a start on some connection, in some mode, with or
without a configuration to restore. -/
def Reachable (s : Session) : Prop :=
  ∃ id connection mode saved history, s = (start id connection mode saved).after history

theorem Reachable.consistent (h : s.Reachable) : s.Consistent := by
  obtain ⟨id, connection, mode, saved, history, rfl⟩ := h
  exact (consistent_start id connection mode saved).after history

/-- **What is committed is restored.**  From any store that has the row of a commit, a configuration
is loaded in the context of any connection to the same source.  A session that starts on that
connection with that configuration, and has not been switched to another connection, has the
committed session's selection, joins and fact table as soon as its first tables arrive, provided
they make the committed session's catalog; and it would be committed the same. -/
theorem restored_after_commit (hs : s.Reachable)
    (hcommit : s.commit (.store store) now name = .ok (snapshot, .store committed))
    {later : Store} (hrow : later.rows.find? name = committed.rows.find? name) {d : Connection}
    (hdriver : d.driver = s.connection.driver)
    (hstring : d.connectionString = s.connection.connectionString) :
    ∃ config, later.loadConfig name d.context = .ok (some config) ∧
      ∀ (id : String) (mode : Mode) (history : List Action) (response : TableResponse)
        (tables : List Table),
        let new := start id d mode (some config)
        let turn := (new.after history).applyTables response
        (∀ connection, Action.setConnection connection ∉ history) →
        (∀ earlier, Reply.tables (.current earlier) ∉ new.replies history) →
        turn.result = .current tables → turn.session.catalog = s.catalog →
          turn.session.selection = s.selection ∧ turn.session.joins = s.joins ∧
            turn.session.fact = s.fact ∧
            (turn.session.snapshot name).toConfig = snapshot.toConfig := by
  have hloaded : later.loadConfig name d.context = .ok (some (s.snapshot name).toConfig) := by
    rw [Connection.context_congr hdriver hstring]
    exact loadConfig_of_commit hcommit hrow
  refine ⟨(s.snapshot name).toConfig, hloaded, ?_⟩
  intro id mode history response tables new turn hswitch hnone hcurrent hcatalog
  have hpending : (new.after history).pending = some (s.snapshot name).toConfig :=
    (lasts_after hswitch hnone).pending
  obtain ⟨before, hturn⟩ := applyTables_of_current hcurrent
  rw [show turn.session = _ from hturn] at hcatalog ⊢
  obtain ⟨hselection, hjoins, hfact⟩ := hs.consistent.takeTables_toConfig hpending hcatalog
  refine ⟨hselection, hjoins, hfact, ?_⟩
  rw [(commit_store_eq_ok hcommit).1]
  exact toConfig_congr hcatalog hselection hjoins hfact

/-! ## A shop -/

/-- A source with the tables of a shop. -/
def shop : Connection := ⟨"local", "static", "shop", some "shop"⟩

/-- The same source under another name. -/
def shopElsewhere : Connection := { shop with name := "elsewhere" }

/-- The tables of the shop. -/
def shopTables : List Table :=
  [⟨"orders", some "shop", [⟨"customer", none⟩]⟩, ⟨"customers", some "shop", [⟨"id", none⟩]⟩]

/-- Fetching, selecting and joining the tables of the shop. -/
def shopHistory : List Action := [
  .requestTables,
  .applyTables ⟨1, "shop", .ok shopTables⟩,
  .addTables ["orders", "customers"],
  .addJoin ⟨⟨"orders", "customer"⟩, ⟨"customers", "id"⟩⟩]

/-- A session in which the shop's tables are joined. -/
def shopSession : Session := (start "first" shop .flat none).after shopHistory

theorem reachable_shopSession : shopSession.Reachable :=
  ⟨"first", shop, .flat, none, shopHistory, rfl⟩

/-- A store to which that session was committed. -/
def shopStore : Store := Store.fresh.commit (shopSession.snapshot "sales") 0

theorem commit_shopSession :
    shopSession.commit (.store .fresh) 0 "sales" =
      .ok (shopSession.snapshot "sales", .store shopStore) :=
  if_pos (show shopSession.gates.canComplete = true by decide)

/-- The shop's session is restored under another name of the connection and in another mode. -/
theorem restored_after_commit_shop :
    shopSession.Reachable ∧
      shopSession.commit (.store .fresh) 0 "sales" =
        .ok (shopSession.snapshot "sales", .store shopStore) ∧
      ∃ config, shopStore.loadConfig "sales" shopElsewhere.context = .ok (some config) ∧
        let turn := ((start "second" shopElsewhere .star (some config)).after
          [.requestTables]).applyTables ⟨1, "shop", .ok shopTables⟩
        turn.session.selection = shopSession.selection ∧
          turn.session.joins = shopSession.joins ∧ turn.session.fact = shopSession.fact ∧
          (turn.session.snapshot "sales").toConfig = (shopSession.snapshot "sales").toConfig := by
  obtain ⟨config, hload, hrestored⟩ := restored_after_commit (d := shopElsewhere)
    reachable_shopSession commit_shopSession rfl rfl rfl
  refine ⟨reachable_shopSession, commit_shopSession, config, hload, ?_⟩
  refine hrestored "second" .star [.requestTables] ⟨1, "shop", .ok shopTables⟩ shopTables
    ?_ ?_ ?_ ?_
  · simp
  · intro tables
    simp [replies, act, Turn.map]
  · rfl
  · exact (catalog_takeTables _ _ _).trans rfl

/-- **A switch gives up what is to be restored**, even a switch to the connection the session is on:
the shop's tables arrive as before, and nothing is selected. -/
theorem not_restored_after_switch :
    let config := (shopSession.snapshot "sales").toConfig
    let new := start "second" shop .flat (some config)
    let history := [.setConnection shop, .requestTables]
    let turn := (new.after history).applyTables ⟨2, "shop", .ok shopTables⟩
    shopSession.Reachable ∧
      shopSession.commit (.store .fresh) 0 "sales" =
          .ok (shopSession.snapshot "sales", .store shopStore) ∧
      shopStore.loadConfig "sales" shop.context = .ok (some config) ∧
      (new.after history).connection = shop ∧
      (∀ earlier, Reply.tables (.current earlier) ∉ new.replies history) ∧
      turn.result = .current shopTables ∧ turn.session.catalog = shopSession.catalog ∧
      turn.session.selection ≠ shopSession.selection := by
  intro config new history turn
  have hconnection : shopSession.connection = shop := rfl
  have hloaded : shopStore.loadConfig "sales" shop.context = .ok (some config) := by
    rw [← hconnection]
    exact loadConfig_of_commit commit_shopSession rfl
  refine ⟨reachable_shopSession, commit_shopSession, hloaded, rfl, ?_, rfl, rfl, ?_⟩
  · intro earlier
    simp [history, replies, act, Turn.map]
  · show ({} : Selection) ≠ shopSession.selection
    decide

end Session
end JoinWizard
