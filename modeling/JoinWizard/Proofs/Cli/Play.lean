/-
# A session played on a document

`inspect` plays a session that is the same every time: it asks for the schemas, selects one, enters
the step, asks for the tables of the schema and takes them in.  A catalog file says the same at
every question, so what the session has become in the end is a function of the document
(`gives_playSession`); the configuration that waits for the tables plays no part before they come.

If the session can be committed in the end, the configuration it started with was restored, for
nothing else selects a table.  So what is committed is a configuration over the catalog of the
tables; and a session that is played with that configuration ends as this one did
(`ended_toConfig`).
-/

import JoinWizard.Cli.Commands
import JoinWizard.Proofs.Session.Commit
import JoinWizard.Proofs.Session.Sink
import JoinWizard.Proofs.Source.Serves
import JoinWizard.Proofs.Workspace

namespace JoinWizard

/-! ## Asking a catalog file -/

namespace CatalogFile

section

variable {α ε ε' : Type} (path : String) (w : Workspace)

theorem run_pathExists (f : Bool → ExceptT ε (StateM Workspace) α) :
    (Machine.pathExists path >>= f).run.run w =
      (f (w.files.look w.workDir (Utf8.bytes path)).isOk).run.run w := rfl

theorem run_pathExists_lift (f : Bool → ExceptT ε (ExceptT ε' (StateM Workspace)) α) :
    (Machine.pathExists path >>= f).run.run.run w =
      (f (w.files.look w.workDir (Utf8.bytes path)).isOk).run.run.run w := rfl

theorem run_readText (f : Except FileFault String → ExceptT ε (StateM Workspace) α) :
    (Machine.readText path >>= f).run.run w =
      (f (w.files.readText w.workDir path)).run.run w := rfl

theorem run_readText_lift
    (f : Except FileFault String → ExceptT ε (ExceptT ε' (StateM Workspace)) α) :
    (Machine.readText path >>= f).run.run.run w =
      (f (w.files.readText w.workDir path)).run.run.run w := rfl

end

variable {ε : Type} {c : Connection} {w : Workspace} {found : Except SourceError SourceDocument}

/-- A program that may fail for other reasons reads the document as any other does. -/
theorem gives_document (h : ((document (m := StateM Workspace) c).run.run w).1 = found) :
    Gives (document (m := ExceptT ε (StateM Workspace)) c).run w found w := by
  subst h
  unfold document Gives
  split
  · rfl
  · rw [run_pathExists, run_pathExists_lift]
    cases (w.files.look w.workDir (Utf8.bytes c.connectionString)).isOk with
    | false => rfl
    | true =>
      dsimp only
      rw [if_pos rfl, if_pos rfl, run_readText, run_readText_lift]
      cases w.files.readText w.workDir c.connectionString with
      | error fault => rfl
      | ok text =>
        dsimp only
        cases ofJsonText (α := SourceDocument) text <;> rfl

theorem gives_schemas (h : ((document (m := StateM Workspace) c).run.run w).1 = found) :
    Gives (provider.schemas c : ExceptT ε (StateM Workspace) _) w
      (found.map SourceDocument.infos) w := by
  show ((Except.map _ <$> (document c).run : ExceptT ε (StateM Workspace) _)).run.run w = _
  have hread := gives_document (ε := ε) h
  rw [map_eq_pure_bind]
  exact gives_bind.2 ⟨found, w, hread, rfl⟩

theorem gives_tables (h : ((document (m := StateM Workspace) c).run.run w).1 = found)
    (schema : String) :
    Gives (provider.tables c schema : ExceptT ε (StateM Workspace) _) w
      (found.bind (·.tablesIn schema)) w := by
  show ((Except.bind · _) <$> (document c).run : ExceptT ε (StateM Workspace) _).run.run w = _
  have hread := gives_document (ε := ε) h
  rw [map_eq_pure_bind]
  exact gives_bind.2 ⟨found, w, hread, rfl⟩

end CatalogFile

/-! ## The play -/

namespace Cli

variable {c : Connection} {mode : Mode} {saved : Option SavedConfig} {d : SourceDocument}
  {schema : Option String} {w w' : Workspace} {u : Session}

/-- The session that has the schemas of a document. -/
def listed (c : Connection) (mode : Mode) (saved : Option SavedConfig) (d : SourceDocument) :
    Session where
  id := ""
  refresh := {
    connection := c
    generation := 1
    state := .schemasReady
    schemas := d.infos
    selectedSchema := Refresh.chooseSchema { connection := c } d.infos }
  mode := mode
  pending := saved

/-- The session that has entered the step and awaits the tables of a schema: of the one that was
given, or else of the one that was chosen from the document. -/
def awaiting (c : Connection) (mode : Mode) (saved : Option SavedConfig) (d : SourceDocument)
    (schema : Option String) : Session where
  id := ""
  refresh := {
    connection := c
    generation := 2
    state := .fetchingTables
    schemas := d.infos
    selectedSchema :=
      schema.or ((Refresh.chooseSchema { connection := c } d.infos).or c.defaultSchema) }
  mode := mode
  activated := true
  pending := saved

/-- The name of the schema whose tables are asked for. -/
def askedFor (c : Connection) (d : SourceDocument) (schema : Option String) : String :=
  (schema.or ((Refresh.chooseSchema { connection := c } d.infos).or c.defaultSchema)).getD ""

/-- The session that has taken in the tables. -/
def ended (c : Connection) (mode : Mode) (saved : Option SavedConfig) (d : SourceDocument)
    (schema : Option String) (tables : List Table) : Session :=
  (((awaiting c mode saved d schema).takeTables (askedFor c d schema) tables).publish [] ()).session

theorem fetched_eq : ((Session.start "" c mode saved).requestSchemas.andThen fun s _ =>
      s.applySchemas ⟨1, c.name, .ok d.infos⟩) =
    ⟨listed c mode saved d, [.gates .blocked], .current d.infos⟩ := by
  cases mode <;> rfl

theorem entered_eq :
    (match schema with
      | some name => ((listed c mode saved d).selectSchema name).session
      | none => listed c mode saved d).activateForward =
    ⟨awaiting c mode saved d schema, [.gates .blocked, .showBusy],
      some ⟨2, askedFor c d schema, c⟩⟩ := by
  cases schema <;> cases mode <;> rfl

/-- The schemas are fetched as the document has them, or else the failure is reported. -/
theorem gives_fetchSchemas {found : Except SourceError SourceDocument}
    (h : ((CatalogFile.document (m := StateM Workspace) c).run.run w).1 = found) :
    Gives ((Session.start "" c mode saved).fetchSchemas CatalogFile.provider :
        ExceptT Report (StateM Workspace) _) w
      ((Session.start "" c mode saved).requestSchemas.andThen fun s _ =>
        s.applySchemas ⟨1, c.name, found.map SourceDocument.infos⟩) w := by
  have hread := CatalogFile.gives_schemas (ε := Report) h
  have hasked : (Session.start "" c mode saved).requestSchemas.result = ⟨1, c⟩ := by
    cases mode <;> rfl
  unfold Session.fetchSchemas
  dsimp only
  rw [hasked, SchemaTicket.run, map_eq_pure_bind, bind_assoc]
  exact hread.bind_iff.2 rfl

/-- The tables of the schema that is asked for are taken in, or else the failure is reported. -/
theorem gives_tables {entered : Turn (Option TableTicket)}
    (h : ((CatalogFile.document (m := StateM Workspace) c).run.run w).1 = .ok d)
    (he : entered = ⟨awaiting c mode saved d schema, [.gates .blocked, .showBusy],
      some ⟨2, askedFor c d schema, c⟩⟩) :
    Gives (match entered.result with
      | some ticket => do
        let response ← ticket.run CatalogFile.provider
        unlessFailed (entered.session.applyTables response)
      | none => return entered.session) w u w' ↔
      ∃ tables, d.tablesIn (askedFor c d schema) = .ok tables ∧
        ended c mode saved d schema tables = u ∧ w = w' := by
  subst he
  have hread := CatalogFile.gives_tables (ε := Report) h (askedFor c d schema)
  dsimp only
  rw [TableTicket.run, map_eq_pure_bind, bind_assoc, hread.bind_iff, pure_bind]
  show Gives (unlessFailed ((awaiting c mode saved d schema).applyTables
    ⟨2, askedFor c d schema, d.tablesIn (askedFor c d schema)⟩)) w u w' ↔ _
  cases d.tablesIn (askedFor c d schema) with
  | error cause =>
    rw [Session.applyTables_of_error rfl rfl]
    exact iff_of_false (not_gives_throw _) nofun
  | ok tables =>
    rw [Session.applyTables_of_ok rfl rfl]
    refine gives_pure.trans ⟨fun h => ⟨tables, rfl, h⟩, ?_⟩
    rintro ⟨tables', htables, h⟩
    obtain rfl := Except.ok.inj htables
    exact h

/-- **The play of a session is settled by the document:** there has to be one, with the schema that
is asked for, and then the session has taken in its tables. -/
theorem gives_playSession {found : Except SourceError SourceDocument}
    (h : ((CatalogFile.document (m := StateM Workspace) c).run.run w).1 = found) :
    Gives (playSession (.start "" c mode saved) schema) w u w' ↔
      ∃ d tables, found = .ok d ∧ d.tablesIn (askedFor c d schema) = .ok tables ∧
        ended c mode saved d schema tables = u ∧ w = w' := by
  unfold playSession
  rw [(gives_fetchSchemas h).bind_iff]
  cases found with
  | error cause =>
    refine iff_of_false ?_ (by simp)
    cases mode <;> exact fun hfailed => by
      obtain ⟨_, _, hthrow, -⟩ := gives_bind.1 hfailed
      exact not_gives_throw _ hthrow
  | ok d =>
    show Gives (unlessFailed ((Session.start "" c mode saved).requestSchemas.andThen fun s _ =>
      s.applySchemas ⟨1, c.name, .ok d.infos⟩) >>= _) w u w' ↔ _
    have hlisted : Gives (unlessFailed (m := StateM Workspace) (⟨listed c mode saved d,
        [.gates .blocked], .current d.infos⟩ : Turn (Accepted (List SchemaInfo)))) w
        (listed c mode saved d) w := rfl
    rw [fetched_eq, hlisted.bind_iff]
    exact (gives_tables h entered_eq).trans (by simp)

/-! ## The end of the play -/

variable {tables : List Table}

/-- The session that has the tables for its catalog, and has not yet restored a configuration. -/
def installed (c : Connection) (mode : Mode) (saved : Option SavedConfig) (d : SourceDocument)
    (schema : Option String) (tables : List Table) : Session :=
  let ready := awaiting c mode saved d schema
  { ready with refresh := { ready.refresh with state := .tablesReady } }.installCatalog
    (.ofTables (Session.schemaLabel (askedFor c d schema) tables) tables)

theorem ended_eq : ended c mode saved d schema tables =
    ((installed c mode saved d schema tables).restorePending.publish [] ()).session := rfl

theorem consistent_ended : (ended c mode saved d schema tables).Consistent := by
  have hawaiting : (awaiting c mode saved d schema).Consistent := .empty
  have htaken := hawaiting.applyTables ⟨2, askedFor c d schema, .ok tables⟩
  rwa [Session.applyTables_of_ok rfl rfl] at htaken

/-- A session without selected tables cannot be committed. -/
theorem not_canComplete_of_nil (h : u.selection.tables = []) : u.gates.canComplete = false := by
  rw [Session.gates_of_selection_nil h]
  rfl

/-- A configuration that applies to the tables is restored over them. -/
theorem ended_of_appliesTo {config : SavedConfig}
    (h : config.appliesTo (Session.schemaLabel (askedFor c d schema) tables) = true) :
    ended c mode (some config) d schema tables =
      (({ (installed c mode none d schema tables).restore config with pending := none } :
        Session).publish [] ()).session := by
  rw [ended_eq, Session.restorePending]
  change ((if config.appliesTo (Session.schemaLabel (askedFor c d schema) tables) then _ else _ :
    Session).publish [] ()).session = _
  rw [if_pos h]
  rfl

/-- Without a configuration that applies to the tables, none of them is selected. -/
theorem ended_selection_of_not_appliesTo (h : ∀ config, saved = some config →
      config.appliesTo (Session.schemaLabel (askedFor c d schema) tables) = false) :
    (ended c mode saved d schema tables).selection.tables = [] := by
  rw [ended_eq, Session.restorePending]
  cases saved with
  | none => rfl
  | some config =>
    change ((if config.appliesTo (Session.schemaLabel (askedFor c d schema) tables) then _ else _ :
      Session).publish [] ()).session.selection.tables = _
    rw [if_neg (by rw [h config rfl]; exact Bool.false_ne_true)]
    rfl

/-- **Only a session that has restored its configuration can be committed in the end.** -/
theorem restored_of_canComplete
    (h : (ended c mode saved d schema tables).gates.canComplete = true) :
    ∃ config, ended c mode saved d schema tables =
      (({ (installed c mode none d schema tables).restore config with pending := none } :
        Session).publish [] ()).session := by
  by_contra hnone
  have hnil : (ended c mode saved d schema tables).selection.tables = [] := by
    refine ended_selection_of_not_appliesTo fun config hsaved => ?_
    rw [Bool.eq_false_iff]
    intro happlies
    exact hnone ⟨config, hsaved ▸ ended_of_appliesTo happlies⟩
  rw [not_canComplete_of_nil hnil] at h
  cases h

/-- **The play ends the same with the configuration that it ended with**, if that could be
committed. -/
theorem ended_toConfig {name : String} (hu : ended c mode saved d schema tables = u)
    (hopen : u.gates.canComplete = true) :
    ended c mode (some (u.snapshot name).toConfig) d schema tables = u := by
  have hconsistent : u.Consistent := hu ▸ consistent_ended
  obtain ⟨config, hended⟩ := restored_of_canComplete (hu ▸ hopen)
  rw [hu] at hended
  have hcatalog : (installed c mode none d schema tables).catalog = u.catalog := by
    rw [hended]
    rfl
  have hschema : u.catalog.schema = Session.schemaLabel (askedFor c d schema) tables := by
    rw [← hcatalog]
    rfl
  have hrestore : (installed c mode none d schema tables).restore (u.snapshot name).toConfig =
      { installed c mode none d schema tables with
        selection := u.selection, joins := u.joins, fact := u.fact } :=
    hconsistent.restore_toConfig hcatalog u.catalog.schema
  have happlies : (u.snapshot name).toConfig.appliesTo
      (Session.schemaLabel (askedFor c d schema) tables) = true := by
    rw [SavedConfig.appliesTo, Bool.or_eq_true]
    exact .inr (decide_eq_true hschema)
  rw [ended_of_appliesTo happlies, hrestore, hended]
  rfl

end Cli
end JoinWizard
