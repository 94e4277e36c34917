/-
# Asking for the default schema with and without its name

A session on a connection with no default schema asks for tables before it knows any schema: it asks
under the empty name, and the source answers for its default schema.  Or it asks for the schemas
first, selects the default one and asks for its tables by name.  Three pieces of code that know
nothing of each other find the default schema:

| who | how |
| --- | --- |
| the source, asked under the empty name | the first schema flagged as default, else the first |
| the session, given a list of schemas | the same, over what the list says of them |
| the session, given tables it asked for under no name | what the first table says its schema is |

The first two agree on every document in which a name stands for one schema (`chooseSchema_infos`),
so either way the same tables arrive.  The third agrees with them only where the default schema has
a first table and that table claims no other schema (`SchemaDocument.LabelsItself`).  Elsewhere the
catalogs differ in their label, and a configuration saved for the one is not restored over the
other.
-/

import JoinWizard.Proofs.Session.Commit
import JoinWizard.Proofs.Session.Dialogue
import JoinWizard.Proofs.Source.Serves

namespace JoinWizard

/-! ## What a fetch brings -/

namespace Turn

variable {α β : Type}

theorem result_andThen (t : Turn α) (f : Session → α → Turn β) :
    (t.andThen f).result = (f t.session t.result).result := rfl

theorem session_andThen (t : Turn α) (f : Session → α → Turn β) :
    (t.andThen f).session = (f t.session t.result).session := rfl

end Turn

namespace Session

variable {σ : Type} {p : Provider (StateM σ)} {w : σ} {s : Session}

/-- A fetch of tables that succeeds is a request and the tables for its answer. -/
theorem fetchTables_eq_of_ok {asked : String} {tables : List Table}
    (hasked : (s.refresh.selectedSchema.or s.connection.defaultSchema).getD "" = asked)
    (h : ((p.tables s.connection asked).run w).1 = .ok tables) :
    ((s.fetchTables p).run w).1 = s.requestTables.andThen fun u _ =>
      (u.takeTables asked tables).publish [.hideBusy] (.current tables) := by
  have hturn : ((s.fetchTables p).run w).1 = s.requestTables.andThen fun u ticket =>
      u.applyTables (ticket.respond ((p.tables ticket.connection ticket.schema).run w).1) := rfl
  have hticket : s.requestTables.result = ⟨s.refresh.generation + 1, asked, s.connection⟩ := by
    rw [requestTables, result_requestTablesOf, ← hasked]
    rfl
  have hcurrent : s.requestTables.session.refresh.isCurrent (s.refresh.generation + 1) = true := by
    rw [requestTables, refresh_requestTablesOf]
    exact Refresh.isCurrent_iff.2 rfl
  rw [hturn, Turn.andThen, hticket]
  dsimp only
  rw [h, TableTicket.respond, applyTables_of_ok hcurrent rfl]
  rfl

/-- **A fetch of tables that succeeds makes the catalog of them,** labelled by the name they were
asked for under. -/
theorem fetchTables_of_ok {asked : String} {tables : List Table}
    (hasked : (s.refresh.selectedSchema.or s.connection.defaultSchema).getD "" = asked)
    (h : ((p.tables s.connection asked).run w).1 = .ok tables) :
    ((s.fetchTables p).run w).1.result = .current tables ∧
      ((s.fetchTables p).run w).1.session.catalog =
        .ofTables (schemaLabel asked tables) tables := by
  rw [fetchTables_eq_of_ok hasked h]
  exact ⟨rfl, catalog_takeTables _ asked tables⟩

theorem result_requestSchemas (s : Session) :
    s.requestSchemas.result = ⟨s.refresh.generation + 1, s.connection⟩ :=
  result_publishIfChanged ..

theorem state_fetchSchemas (s : Session) (w : σ) :
    ((s.fetchSchemas p).run w).2 = ((p.schemas s.connection).run w).2 := by
  show ((p.schemas s.requestSchemas.result.connection).run w).2 = _
  rw [result_requestSchemas]

/-- **A fetch of schemas that succeeds selects one of them.** -/
theorem fetchSchemas_of_ok {schemas : List SchemaInfo}
    (h : ((p.schemas s.connection).run w).1 = .ok schemas) :
    ((s.fetchSchemas p).run w).1.result = .current schemas ∧
      ((s.fetchSchemas p).run w).1.session.refresh.selectedSchema =
        s.refresh.chooseSchema schemas ∧
      ((s.fetchSchemas p).run w).1.session.connection = s.connection := by
  have hturn : ((s.fetchSchemas p).run w).1 = s.requestSchemas.andThen fun u ticket =>
      u.applySchemas (ticket.respond ((p.schemas ticket.connection).run w).1) := rfl
  have hrefresh : s.requestSchemas.session.refresh = s.refresh.requestSchemas.1 :=
    congrArg Session.refresh (session_publishIfChanged ..)
  have hcurrent : s.requestSchemas.session.refresh.isCurrent (s.refresh.generation + 1) = true := by
    rw [hrefresh]
    exact Refresh.isCurrent_iff.2 rfl
  rw [hturn, Turn.andThen, result_requestSchemas]
  dsimp only
  rw [h, SchemaTicket.respond, applySchemas_of_ok hcurrent rfl, hrefresh]
  exact ⟨rfl, rfl, rfl⟩

/-- A full refresh whose schemas arrive is a fetch of tables after one of schemas. -/
theorem refreshAll_of_ok {schemas : List SchemaInfo}
    (h : ((s.fetchSchemas p).run w).1.result = .current schemas) :
    let first := (s.fetchSchemas p).run w
    let second := (first.1.session.fetchTables p).run first.2
    ((s.refreshAll p).run w).1 = first.1.andThen fun _ _ => second.1 := by
  unfold refreshAll
  simp only [StateT.run_bind]
  generalize (s.fetchSchemas p).run w = first at h ⊢
  obtain ⟨⟨session, notices, result⟩, state⟩ := first
  obtain rfl : result = .current schemas := h
  rfl

end Session

/-! ## With and without the name -/

/-- Whether the first table of a schema shows which schema it is. -/
def SchemaDocument.LabelsItself (s : SchemaDocument) : Prop :=
  (s.tables.head?.map fun t => t.schema.getD s.name) = some s.name

instance (s : SchemaDocument) : Decidable s.LabelsItself := inferInstanceAs (Decidable (_ = _))

namespace SourceDocument

variable {d : SourceDocument} {c : Connection} {σ τ : Type} {p : Provider (StateM σ)}
  {q : Provider (StateM τ)} {v : σ} {w : τ} {s t : Session} {schema : SchemaDocument}

/-- **A session with no schema selected and no default selects the default schema** of the
document the schemas are listed from. -/
theorem chooseSchema_infos {r : Refresh} (hselected : r.selectedSchema = none)
    (hdefault : r.connection.defaultSchema = none) (h : d.default? = some schema) :
    r.chooseSchema d.infos = some schema.name := by
  rw [Refresh.chooseSchema, hselected, hdefault]
  show ((d.infos.find? (·.isDefault)).or d.infos.head?).map SchemaInfo.name = some schema.name
  rw [infos, List.find?_map, List.head?_map, ← Option.map_or, Option.map_map]
  exact congrArg (Option.map _) h

/-- **Asked for under the empty name,** the tables of the default schema arrive, under the schema
their first one claims. -/
theorem fetchTables_unnamed (hp : Serves c d p v) (hs : s.connection = c)
    (hselected : s.refresh.selectedSchema = none) (hdefault : c.defaultSchema = none)
    (h : d.default? = some schema) :
    ((s.fetchTables p).run v).1.result = .current schema.tagged ∧
      ((s.fetchTables p).run v).1.session.catalog =
        .ofTables (schema.tables.head?.map fun t => t.schema.getD schema.name) schema.tagged := by
  have hasked : (s.refresh.selectedSchema.or s.connection.defaultSchema).getD "" = "" := by
    rw [hselected, hs, hdefault]
    rfl
  have htables : ((p.tables s.connection "").run v).1 = .ok schema.tagged := by
    rw [hs, hp.tables, tablesIn_empty h]
  rw [← SchemaDocument.head?_tagged]
  exact Session.fetchTables_of_ok hasked htables

/-- **Asked for by name** after the schemas were listed, the same tables arrive, under the name. -/
theorem refreshAll_named (hq : Serves c d q w) (ht : t.connection = c)
    (hselected : t.refresh.selectedSchema = none) (hdefault : c.defaultSchema = none)
    (hdistinct : (d.schemas.map SchemaDocument.name).Nodup)
    (hname : schema.name ≠ "") (h : d.default? = some schema) :
    ((t.refreshAll q).run w).1.result = .current schema.tagged ∧
      ((t.refreshAll q).run w).1.session.catalog =
        .ofTables (some schema.name) schema.tagged := by
  subst ht
  obtain ⟨hresult, hchosen, hsame⟩ := Session.fetchSchemas_of_ok hq.schemas.1
  rw [chooseSchema_infos hselected hdefault h] at hchosen
  have hasked : (((t.fetchSchemas q).run w).1.session.refresh.selectedSchema.or
      ((t.fetchSchemas q).run w).1.session.connection.defaultSchema).getD "" = schema.name := by
    rw [hchosen]
    rfl
  have hserves : Serves t.connection d q ((t.fetchSchemas q).run w).2 := by
    rw [Session.state_fetchSchemas]
    exact hq.schemas.2
  have htables : ((q.tables ((t.fetchSchemas q).run w).1.session.connection schema.name).run
      ((t.fetchSchemas q).run w).2).1 = .ok schema.tagged := by
    rw [hsame, hserves.tables, tablesIn_name hname hdistinct (mem_of_default h)]
  obtain ⟨hcurrent, hcatalog⟩ := Session.fetchTables_of_ok hasked htables
  rw [Session.schemaLabel, if_neg hname] at hcatalog
  rw [Session.refreshAll_of_ok hresult, Turn.result_andThen, Turn.session_andThen]
  exact ⟨hcurrent, hcatalog⟩

/-- Every saved configuration applies to both labels or to none, exactly if the labels are one: a
configuration that is bound to the one tells them apart. -/
theorem appliesTo_congr_iff {label : Option String} {name : String} :
    (∀ config : SavedConfig, config.appliesTo label = config.appliesTo (some name)) ↔
      label = some name := by
  constructor
  · intro h
    have hbound : (some name = label) ↔ (some name = some name) := by
      simpa [SavedConfig.appliesTo] using h { schema := some name }
    exact (hbound.2 rfl).symm
  · rintro rfl config
    rfl

/-- **Asking for the default schema is asking for it by name, but for the label.**  A document is
served to two sessions that have no schema selected, on a connection with no default; each of its
schemas has a name, and no two the same.  One session asks for tables, the other for schemas and
then for tables.  The same tables arrive, those of the default schema.  The catalogs are the same,
and the same saved configurations apply to them, if and only if the first table of that schema is
there and claims no other schema. -/
theorem unnamed_eq_named_iff (hp : Serves c d p v) (hq : Serves c d q w) (hs : s.connection = c)
    (ht : t.connection = c) (hs' : s.refresh.selectedSchema = none)
    (ht' : t.refresh.selectedSchema = none) (hdefault : c.defaultSchema = none)
    (hschemas : d.schemas ≠ []) (hnames : ∀ schema ∈ d.schemas, schema.name ≠ "")
    (hdistinct : (d.schemas.map SchemaDocument.name).Nodup) :
    let unnamed := ((s.fetchTables p).run v).1
    let named := ((t.refreshAll q).run w).1
    ∃ schema, d.default? = some schema ∧
      unnamed.result = .current schema.tagged ∧ named.result = .current schema.tagged ∧
      unnamed.session.catalog.tables = named.session.catalog.tables ∧
      unnamed.session.catalog.schema = schema.tagged.head?.bind Table.schema ∧
      named.session.catalog.schema = some schema.name ∧
      (unnamed.session.catalog = named.session.catalog ↔ schema.LabelsItself) ∧
      ((∀ config : SavedConfig, config.appliesTo unnamed.session.catalog.schema =
        config.appliesTo named.session.catalog.schema) ↔ schema.LabelsItself) := by
  intro unnamed named
  obtain ⟨schema, h⟩ := exists_default hschemas
  obtain ⟨hunnamed, hcatalog⟩ := fetchTables_unnamed hp hs hs' hdefault h
  obtain ⟨hnamed, hcatalog'⟩ := refreshAll_named hq ht ht' hdefault hdistinct
    (hnames schema (mem_of_default h)) h
  refine ⟨schema, h, hunnamed, hnamed, ?_⟩
  rw [hcatalog, hcatalog']
  refine ⟨rfl, schema.head?_tagged.symm, rfl, ?_, appliesTo_congr_iff⟩
  exact ⟨fun he => congrArg Catalog.schema he, fun he => congrArg (Catalog.ofTables · _) he⟩

/-- A connection with no default schema. -/
def undecided : Connection := ⟨"local", "static", "", none⟩

/-- A document with a default schema whose second table claims another schema. -/
def sales : SourceDocument where
  schemas := [
    { name := "staging", tables := [{ name := "raw_orders" }] },
    { name := "sales", isDefault := true,
      tables := [{ name := "orders" }, { name := "customers", schema := some "crm" }] }]

/-- Sessions on that document get the same catalog. -/
theorem unnamed_eq_named_sales :
    let source : FixedSource := { document := sales }
    let unnamed := (((Session.start "first" undecided .flat none).fetchTables
      FixedSource.provider).run source).1
    let named := (((Session.start "second" undecided .star none).refreshAll
      FixedSource.provider).run source).1
    unnamed.session.catalog = named.session.catalog := by
  intro source unnamed named
  obtain ⟨schema, h, -, -, -, -, -, heq, -⟩ := unnamed_eq_named_iff
    (c := undecided) (d := sales)
    (s := .start "first" undecided .flat none) (t := .start "second" undecided .star none)
    (.held source rfl rfl rfl) (.held source rfl rfl rfl) rfl rfl rfl rfl rfl
    (by decide) (by decide) (by decide)
  obtain rfl : _ = schema := Option.some.inj h
  exact heq.2 (by decide)

/-- A document whose default schema begins with a table that claims another schema. -/
def borrowed : SourceDocument where
  schemas := [{ name := "shop", tables := [{ name := "orders", schema := some "crm" }] }]

/-- **A borrowed table labels the catalog with the schema it claims,** if the default schema is
asked for under no name, and a configuration saved for that schema does not apply. -/
theorem unnamed_ne_named_borrowed :
    let source : FixedSource := { document := borrowed }
    let unnamed := (((Session.start "first" undecided .flat none).fetchTables
      FixedSource.provider).run source).1.session
    let named := (((Session.start "second" undecided .flat none).refreshAll
      FixedSource.provider).run source).1.session
    let config : SavedConfig := { schema := some "shop", tables := ["orders"] }
    (borrowed.schemas ≠ [] ∧ (∀ schema ∈ borrowed.schemas, schema.name ≠ "") ∧
      (borrowed.schemas.map SchemaDocument.name).Nodup ∧ undecided.defaultSchema = none) ∧
    unnamed.catalog.tables = named.catalog.tables ∧ unnamed.catalog ≠ named.catalog ∧
      config.appliesTo unnamed.catalog.schema = false ∧
      config.appliesTo named.catalog.schema = true := by
  decide

end SourceDocument
end JoinWizard
