/-
# Refreshing from a source that has not changed

A refresh asks for the schemas, selects one, asks for its tables, makes them the catalog and takes
from the model what the catalog does not bear out.  If the source is what it was when the tables
came last, nothing is taken, for the refresh comes back to the same tables:

| tables were asked for | the schema the refresh selects | its tables |
| --- | --- | --- |
| under a name, which is still selected | the same, since the source lists it | the same |
| under no name, and none was selected since | the source's default | the same, tagged alike |

In the second row the connection has no default schema that could be selected instead: had it one,
no tables would have been asked for under no name (`Dialogue.undecided_of_issued`).

Over a catalog of the same tables every step that prunes the model leaves it as it is, because the
model is consistent (`Session.Consistent.installCatalog_eq`).
-/

import JoinWizard.Proofs.Refresh.SchemaChoice
import JoinWizard.Proofs.Session.DefaultSchema
import JoinWizard.Proofs.Session.Provenance

namespace JoinWizard

/-! ## The schema that is selected -/

namespace Refresh

variable {r : Refresh}

theorem selectedSchema_selectSchema (r : Refresh) (schema : String) :
    (r.selectSchema schema).selectedSchema = some schema := by
  unfold selectSchema
  split <;> rfl

/-- A request for tables leaves no schema selected only if there is none to select. -/
theorem none_of_requestTables {schema : Option String}
    (h : (r.requestTables schema).1.selectedSchema = none) :
    r.selectedSchema = none ∧ r.connection.defaultSchema = none := by
  have hnone : schema.or (r.selectedSchema.or r.connection.defaultSchema) = none := h
  exact Option.or_eq_none_iff.1 (Option.or_eq_none_iff.1 hnone).2

end Refresh

namespace SourceDocument

variable {d : SourceDocument} {r : Refresh} {name : String} {tables : List Table}

/-- Tables are found in a schema of the document. -/
theorem exists_schema_of_tablesIn (h : d.tablesIn name = .ok tables) :
    ∃ schema, d.schema? name = some schema ∧ schema ∈ d.schemas ∧ tables = schema.tagged := by
  unfold tablesIn at h
  split at h
  · cases h
  · next schema hschema =>
    refine ⟨schema, hschema, ?_, (Except.ok.inj h).symm⟩
    unfold schema? at hschema
    split at hschema
    · exact mem_of_default hschema
    · exact List.mem_of_find?_eq_some hschema

/-- **The schema that is selected from the list has the tables of the one before.** -/
theorem tables_of_chooseSchema (hnames : ∀ schema ∈ d.schemas, schema.name ≠ "")
    (hdistinct : (d.schemas.map SchemaDocument.name).Nodup) (hselected : r.selectedSchema ≠ some "")
    (hdefault : r.selectedSchema = none → r.connection.defaultSchema = none)
    (h : d.tablesIn (r.selectedSchema.getD "") = .ok tables) :
    ∃ name, r.chooseSchema d.infos = some name ∧ d.tablesIn name = .ok tables := by
  obtain ⟨schema, hschema, hmem, rfl⟩ := exists_schema_of_tablesIn h
  cases hs : r.selectedSchema with
  | none =>
    rw [hs] at hschema
    have hdef : d.default? = some schema := hschema
    exact ⟨schema.name, chooseSchema_infos hs (hdefault hs) hdef,
      tablesIn_name (hnames schema hmem) hdistinct hmem⟩
  | some name =>
    rw [hs] at h hschema hselected
    have hname : name ≠ "" := fun he => hselected (congrArg some he)
    rw [Option.getD_some, schema?, if_neg hname] at hschema
    have hfound : schema.name = name := by simpa using List.find?_some hschema
    refine ⟨name, Refresh.chooseSchema_of_mem hs ?_, h⟩
    exact List.mem_map.2 ⟨schema.info, List.mem_map_of_mem hmem, hfound⟩

end SourceDocument

/-! ## The refresh -/

namespace Session

variable {σ : Type} {p : Provider (StateM σ)} {w : σ} {s t u : Session} {tables : List Table}

/-- Two sessions differ in the refresh and in what the host was told, at most. -/
def SameModel (s t : Session) : Prop := ∃ refresh published, t = { s with refresh, published }

theorem SameModel.trans (h : s.SameModel t) (h' : t.SameModel u) : s.SameModel u := by
  obtain ⟨_, _, rfl⟩ := h
  obtain ⟨refresh, published, rfl⟩ := h'
  exact ⟨refresh, published, rfl⟩

theorem sameModel_requestTables (s : Session) : s.SameModel s.requestTables.session :=
  ⟨_, _, session_publishIfChanged ..⟩

theorem sameModel_requestSchemas (s : Session) : s.SameModel s.requestSchemas.session :=
  ⟨_, _, session_publishIfChanged ..⟩

/-- Schemas leave the model alone, whatever becomes of them. -/
theorem sameModel_applySchemas (s : Session) (response : SchemaResponse) :
    s.SameModel (s.applySchemas response).session := by
  unfold applySchemas
  dsimp only
  split <;> exact ⟨_, _, rfl⟩

theorem sameModel_fetchSchemas (p : Provider (StateM σ)) (w : σ) (s : Session) :
    s.SameModel ((s.fetchSchemas p).run w).1.session :=
  s.sameModel_requestSchemas.trans (sameModel_applySchemas ..)

/-- **Tables of the same catalog leave the model alone,** if nothing is to be restored. -/
theorem Consistent.takeTables_eq (h : s.Consistent) (hpending : s.pending = none)
    (hsame : Table.firstOfName tables = s.catalog.tables) (asked : String) :
    s.takeTables asked tables =
      { s with
        refresh := { s.refresh with state := .tablesReady, lastError := none }
        catalog := .ofTables (schemaLabel asked tables) tables } := by
  have hready : Session.Consistent
      { s with refresh := { s.refresh with state := .tablesReady, lastError := none } } := h
  rw [takeTables, hready.installCatalog_eq hsame, Session.restorePending]
  dsimp only
  rw [hpending]

/-- **A full refresh that brings the tables of the catalog leaves the model alone.** -/
theorem Consistent.refreshAll_eq (h : s.Consistent) (hpending : s.pending = none)
    {schemas : List SchemaInfo} {asked : String}
    (hschemas : ((p.schemas s.connection).run w).1 = .ok schemas)
    (hchosen : s.refresh.chooseSchema schemas = some asked)
    (htables : ((p.tables s.connection asked).run ((p.schemas s.connection).run w).2).1 =
      .ok tables)
    (hsame : Table.firstOfName tables = s.catalog.tables) :
    ((s.refreshAll p).run w).1.result = .current tables ∧
      ∃ refresh, refresh.state = .tablesReady ∧ ((s.refreshAll p).run w).1.session =
        { s with
          refresh
          catalog := .ofTables (schemaLabel asked tables) tables
          published := .ofModel s.selection s.fact s.mode } := by
  obtain ⟨hresult, hselected, hconnection⟩ := fetchSchemas_of_ok hschemas
  have hfirst : s.SameModel ((s.fetchSchemas p).run w).1.session := sameModel_fetchSchemas p w s
  have hall := refreshAll_of_ok hresult
  rw [hall, Turn.result_andThen, Turn.session_andThen, state_fetchSchemas]
  generalize ((s.fetchSchemas p).run w).1.session = first at hselected hconnection hfirst ⊢
  have hasked : (first.refresh.selectedSchema.or first.connection.defaultSchema).getD "" =
      asked := by
    rw [hselected, hchosen]
    rfl
  have htables' : ((p.tables first.connection asked).run
      ((p.schemas s.connection).run w).2).1 = .ok tables := by
    rw [hconnection]
    exact htables
  rw [fetchTables_eq_of_ok hasked htables']
  refine ⟨rfl, ?_⟩
  -- The request and the schemas before it have left the model of `s`, so the tables do too.
  obtain ⟨refresh, published, hasking⟩ := hfirst.trans first.sameModel_requestTables
  rw [Turn.session_andThen, hasking]
  have hc : ({ s with refresh, published } : Session).Consistent := h
  rw [hc.takeTables_eq hpending hsame]
  exact ⟨_, rfl, rfl⟩

end Session

/-! ## What came from the source -/

namespace Dialogue

variable {d : SourceDocument} {x first : Dialogue} {m : Move} {n : Nat} {t : TableTicket}
  {asked : String} {tables : List Table} {history later : List Move}

/-- A move is no response, or one that its ticket is given by some provider of a document. -/
def Genuine (d : SourceDocument) (x : Dialogue) : Move → Prop
  | .own _ _ => True
  | .schemas n connection result => ∃ t, x.tickets[n]? = some (.schemas t) ∧
    ∃ (σ : Type) (p : Provider (StateM σ)) (w : σ), Serves t.connection d p w ∧
      ((t.run p).run w).1 = ⟨t.generation, connection, result⟩
  | .tables n schema result => ∃ t, x.tickets[n]? = some (.tables t) ∧
    ∃ (σ : Type) (p : Provider (StateM σ)) (w : σ), Serves t.connection d p w ∧
      ((t.run p).run w).1 = ⟨t.generation, schema, result⟩

/-- Every response among some moves is genuine. -/
def AllGenuine (d : SourceDocument) (x : Dialogue) : List Move → Prop
  | [] => True
  | m :: history => x.Genuine d m ∧ (x.step m).AllGenuine d history

theorem allGenuine_append {before since : List Move} :
    x.AllGenuine d (before ++ since) ↔
      x.AllGenuine d before ∧ (x.after before).AllGenuine d since := by
  induction before generalizing x with
  | nil => exact (and_iff_right trivial).symm
  | cons m before ih =>
    rw [List.cons_append, AllGenuine, AllGenuine, ih, and_assoc]
    rfl

theorem Genuine.schemas_eq {connection : String} {result : Except SourceError (List SchemaInfo)}
    (h : x.Genuine d (.schemas n connection result)) : result = .ok d.infos := by
  obtain ⟨t, -, σ, p, w, hp, hrun⟩ := h
  have hresult : ((p.schemas t.connection).run w).1 = result := congrArg SchemaResponse.result hrun
  rw [← hresult, hp.schemas.1]

theorem Genuine.tables_eq {result : Except SourceError (List Table)}
    (h : x.Genuine d (.tables n asked result)) (ht : x.tickets[n]? = some (.tables t)) :
    result = d.tablesIn t.schema := by
  obtain ⟨t', ht', σ, p, w, hp, hrun⟩ := h
  obtain rfl : t' = t := Ticket.tables.inj (Option.some.inj (ht'.symm.trans ht))
  have hresult : ((p.tables t'.connection t'.schema).run w).1 = result :=
    congrArg TableResponse.result hrun
  rw [← hresult, hp.tables]

/-! ## What stays selected -/

/-- Whatever is asked for, a selected schema is not unselected. -/
theorem selectedSchema_of_asks {s : Session} {a : Action} {r : Refresh} {ticket : Option Ticket}
    {busy : List Notice} (h : Asks s a r ticket busy)
    (hswitch : ∀ connection, a ≠ .setConnection connection) (hr : r.selectedSchema = none) :
    s.refresh.selectedSchema = none := by
  cases h with
  | nothing => exact hr
  | schemas => exact hr
  | tables schema => exact (Refresh.none_of_requestTables hr).1
  | select schema =>
    rw [Refresh.selectedSchema_selectSchema] at hr
    cases hr
  | switch connection h => exact absurd h (hswitch connection)

/-- **Once a schema is selected, one is selected until the next switch,** if the source has
schemas. -/
theorem selectedSchema_of_step (hd : d.schemas ≠ []) (hm : x.Genuine d m)
    (hswitch : ∀ connection, m ≠ .switch connection)
    (h : (x.step m).session.refresh.selectedSchema = none) :
    x.session.refresh.selectedSchema = none := by
  cases x.heard m with
  | lost hlost => rwa [step_lost hlost] at h
  | own a ha =>
    refine selectedSchema_of_asks (x.session.asks_act ha) (fun connection he => ?_) h
    subst he
    exact hswitch _ rfl
  | @schemas n t ht connection result =>
    obtain rfl := hm.schemas_eq
    rw [step_schemas ht, Session.refresh_applySchemas] at h
    cases hc : x.session.refresh.isCurrent t.generation with
    | false => rwa [Refresh.acceptSchemas_of_stale hc] at h
    | true =>
      rw [Refresh.acceptSchemas_of_ok hc rfl] at h
      have hinfos : d.infos ≠ [] := fun he => hd (List.map_eq_nil_iff.1 he)
      exact absurd h (Refresh.chooseSchema_ne_none hinfos)
  | tables ht asked result =>
    rwa [step_tables ht, Session.refresh_applyTables, Refresh.selectedSchema_acceptTables] at h

theorem selectedSchema_of_after (hd : d.schemas ≠ []) (hlater : x.AllGenuine d later)
    (hswitch : Unswitched later) (h : (x.after later).session.refresh.selectedSchema = none) :
    x.session.refresh.selectedSchema = none := by
  induction later generalizing x with
  | nil => exact h
  | cons m later ih =>
    obtain ⟨hm, hlater⟩ := hlater
    obtain ⟨hne, hswitch⟩ := hswitch.cons
    exact selectedSchema_of_step hd hm hne (ih hlater hswitch h)

/-! ## The tables that came last -/

/-- A request for tables that leaves no schema selected finds no default schema. -/
theorem defaultSchema_of_asks {s : Session} {a : Action} {r : Refresh} {busy : List Notice}
    (h : Asks s a r (some (.tables t)) busy) (hr : r.selectedSchema = none) :
    r.connection.defaultSchema = none := by
  cases h with
  | tables schema => exact (Refresh.none_of_requestTables hr).2

/-- **Tables are asked for under no name only where there is no default schema.** -/
theorem undecided_of_issued (hn : x.tickets.length = n)
    (ht : (x.step m).tickets[n]? = some (.tables t))
    (hselected : (x.step m).session.refresh.selectedSchema = none) :
    (x.step m).session.connection.defaultSchema = none := by
  have hnew : x.tickets[n]? = none := List.getElem?_eq_none (Nat.le_of_eq hn)
  cases x.heard m with
  | lost hlost =>
    rw [step_lost hlost, hnew] at ht
    cases ht
  | own a ha =>
    have hticket : (x.session.act a).result.ticket? = some (.tables t) := by
      have hlast : (x.tickets ++ (x.session.act a).result.ticket?.toList)[n]? =
          some (.tables t) := ht
      rw [List.getElem?_append_right (Nat.le_of_eq hn), hn, Nat.sub_self] at hlast
      cases hresult : (x.session.act a).result.ticket? with
      | none =>
        rw [hresult] at hlast
        cases hlast
      | some u =>
        rw [hresult] at hlast
        exact hlast
    have hasks := x.session.asks_act ha
    rw [hticket] at hasks
    exact defaultSchema_of_asks hasks hselected
  | schemas hschemas connection result =>
    rw [step_schemas hschemas, hnew] at ht
    cases ht
  | tables htables asked result =>
    rw [step_tables htables, hnew] at ht
    cases ht

/-- **The tables that came last are what the document has for their ticket,** and if no schema is
selected after them, there is none to select by default. -/
theorem Fetched.of_allGenuine (h : Fetched first history t asked tables)
    (hgenuine : first.AllGenuine d history) :
    d.tablesIn t.schema = .ok tables ∧
      ((first.after history).session.refresh.selectedSchema = none →
        (first.after history).session.connection.defaultSchema = none) := by
  obtain ⟨before, n, since, rfl, -, ⟨earlier, m, between, rfl, hn, ht, hbetween⟩, hsince, -⟩ := h
  rw [List.append_assoc, List.cons_append] at hgenuine
  obtain ⟨-, -, hlater⟩ := allGenuine_append.1 hgenuine
  obtain ⟨-, hresponse, -⟩ := allGenuine_append.1 hlater
  have htables : .ok tables = d.tablesIn t.schema :=
    hresponse.tables_eq (ticket_after ht between)
  refine ⟨htables.symm, fun hselected => ?_⟩
  -- From the request on there was no switch, so what no longer holds after it would have been seen.
  have hswitch : Unswitched (between ++ .tables n asked (.ok tables) :: since) := by
    intro connection hmem
    rcases List.mem_append.1 hmem with hmem | hmem
    · exact hbetween connection hmem
    · rcases List.mem_cons.1 hmem with he | hmem
      · cases he
      · exact hsince connection hmem
  have hafter : first.after ((earlier ++ m :: between) ++ .tables n asked (.ok tables) :: since) =
      ((first.after earlier).step m).after (between ++ .tables n asked (.ok tables) :: since) := by
    rw [List.append_assoc, List.cons_append, after_append]
    rfl
  rw [hafter] at hselected ⊢
  rw [connection_after hswitch]
  obtain ⟨schema, -, hmem, -⟩ := SourceDocument.exists_schema_of_tablesIn htables.symm
  exact undecided_of_issued hn ht
    (selectedSchema_of_after (List.ne_nil_of_mem hmem) hlater hswitch hselected)

/-- **Refreshing from an unchanged source keeps the user's work.**  All responses of a history came
from a document, in which each schema has a name and no two the same.  Tables have come since the
last switch, nothing is to be restored, and what is selected is what those tables were asked for
under.  Then a full refresh from the document brings the same tables, and leaves the selection, the
joins and the fact table as they are. -/
theorem refreshAll_keeps_model (hnames : ∀ schema ∈ d.schemas, schema.name ≠ "")
    (hdistinct : (d.schemas.map SchemaDocument.name).Nodup) (id : String) (connection : Connection)
    (mode : Mode) (saved : Option SavedConfig) (history : List Move) :
    let first := start id connection mode saved
    let s := (first.after history).session
    first.AllGenuine d history → ∀ t asked tables, Fetched first history t asked tables →
      s.pending = none → s.refresh.selectedSchema ≠ some "" →
      s.refresh.selectedSchema.getD "" = t.schema →
      ∀ (σ : Type) (p : Provider (StateM σ)) (w : σ), Serves s.connection d p w →
        let turn := ((s.refreshAll p).run w).1
        turn.result = .current tables ∧ turn.session.selection = s.selection ∧
          turn.session.joins = s.joins ∧ turn.session.fact = s.fact ∧
          turn.session.mode = s.mode ∧ turn.session.catalog.tables = s.catalog.tables ∧
          turn.session.refresh.state = .tablesReady ∧
          turn.session.gates = .ofModel s.selection s.fact s.mode ∧
          turn.session.published = turn.session.gates := by
  intro first s hgenuine t asked tables hfetched hpending hname hselected σ p w hp turn
  have hc : s.Consistent :=
    consistent_after (Session.consistent_start id connection mode saved) history
  obtain ⟨hfound, hdefault⟩ := hfetched.of_allGenuine hgenuine
  have hsame : Table.firstOfName tables = s.catalog.tables :=
    (congrArg Catalog.tables (catalog_of_fetched hfetched)).symm
  rw [← hselected] at hfound
  obtain ⟨name, hchosen, htables⟩ :=
    SourceDocument.tables_of_chooseSchema hnames hdistinct hname hdefault hfound
  have hserved : ((p.tables s.connection name).run ((p.schemas s.connection).run w).2).1 =
      .ok tables := by
    rw [hp.schemas.2.tables, htables]
  obtain ⟨hresult, refresh, hready, hsession⟩ :=
    hc.refreshAll_eq hpending hp.schemas.1 hchosen hserved hsame
  have hturn : turn.session = _ := hsession
  have hgates : turn.session.gates = .ofModel s.selection s.fact s.mode := by
    rw [hturn, Session.gates, if_neg]
    rw [hready]
    decide
  refine ⟨hresult, ?_, ?_, ?_, ?_, ?_, ?_, hgates, ?_⟩
  · rw [hturn]
  · rw [hturn]
  · rw [hturn]
  · rw [hturn]
  · rw [hturn]
    exact hsame
  · rw [hturn]
    exact hready
  · rw [hgates, hturn]

/-- A document of one schema. -/
def shopDocument : SourceDocument where
  schemas := [{ name := "shop", tables := [⟨"orders", none, [⟨"customer", none⟩]⟩,
    ⟨"customers", none, [⟨"id", none⟩]⟩] }]

/-- The tables of the document are fetched under no name, selected and joined. -/
def shopMoves : List Move := [
  .own .requestTables Action.isOwn_requestTables,
  .tables 0 "" (.ok Session.shopTables),
  .own (.addTables ["orders", "customers"]) rfl,
  .own (.addJoin ⟨⟨"orders", "customer"⟩, ⟨"customers", "id"⟩⟩) rfl]

theorem fetched_shopMoves :
    Fetched (start "first" SourceDocument.undecided .flat none) shopMoves
      ⟨1, "", SourceDocument.undecided⟩ "" Session.shopTables := by
  refine ⟨[.own .requestTables rfl], 0, shopMoves.drop 2, rfl, rfl, ?_, ?_, ?_⟩
  · exact ⟨[], .own .requestTables rfl, [], rfl, rfl, rfl, unswitched_nil⟩
  · refine (unswitched_nil.snoc fun connection h => ?_).snoc fun connection h => ?_
    · cases h
    · cases h
  · refine ((bringsNone_nil _).snoc fun tables h => ?_).snoc fun tables h => ?_
    · exact absurd (Option.some.inj h) (Session.act_ne_tables rfl _)
    · exact absurd (Option.some.inj h) (Session.act_ne_tables rfl _)

/-- A refresh selects the default schema by name, and the model stays. -/
theorem refreshAll_keeps_model_shop :
    let first := start "first" SourceDocument.undecided .flat none
    let s := (first.after shopMoves).session
    let turn := ((s.refreshAll FixedSource.provider).run { document := shopDocument }).1
    first.AllGenuine shopDocument shopMoves ∧
      Fetched first shopMoves ⟨1, "", SourceDocument.undecided⟩ "" Session.shopTables ∧
      s.refresh.selectedSchema = none ∧ turn.session.refresh.selectedSchema = some "shop" ∧
      s.joins.joins ≠ [] ∧ turn.session.selection = s.selection ∧ turn.session.joins = s.joins := by
  have hgenuine : (start "first" SourceDocument.undecided .flat none).AllGenuine shopDocument
      shopMoves := by
    refine ⟨trivial, ⟨⟨1, "", SourceDocument.undecided⟩, rfl, FixedSource, FixedSource.provider,
      { document := shopDocument }, .held _ rfl rfl rfl, rfl⟩, trivial, trivial, trivial⟩
  have hkept := refreshAll_keeps_model (d := shopDocument) (by decide) (by decide) "first"
    SourceDocument.undecided .flat none shopMoves hgenuine _ _ _ fetched_shopMoves rfl (by decide)
    rfl _ _ _ (.held { document := shopDocument } rfl rfl rfl)
  exact ⟨hgenuine, fetched_shopMoves, rfl, by decide, by decide, hkept.2.1, hkept.2.2.1⟩

end Dialogue
end JoinWizard
