/-
# The model that new tables leave

Tables that arrive become the catalog, and the model over it is one of two, each a filter of lists
that were there before:

| | carried over (`Session.model_over_new_catalog`) | restored (`Session.model_of_saved_config`) |
| --- | --- | --- |
| when | no pending configuration applies | the pending configuration applies |
| selection | the old one, each table looked up | the configuration's names, each looked up once |
| joins | the old ones whose ends are still fields | the admitted ones, the first of each edge |
| fact table | the old one, if still selected | the configuration's, if selected |

What is restored owes nothing to the model before it.

The session gets there by steps that work on each other's results: tables are dropped, definitions
swapped one by one, joins looked at again; names are resolved, and then every join is declared anew,
where it may be refused for other reasons than those it was resolved by.  The filters say what is
left of all that.  A join is declared after the joins that came before it in the configuration,
refused ones included; as a refused join has a refused reverse, it is the same to ask for an earlier
join of its edge or for an earlier one that was accepted (`JoinGraph.joins_addAll`).
-/

import JoinWizard.Proofs.Session.Restoring

namespace JoinWizard
namespace Session

variable {s t u : Session} {config : SavedConfig} {response : TableResponse} {tables : List Table}

/-! ## Carried over -/

/-- Nothing is restored unless a pending configuration applies to the catalog. -/
theorem restorePending_eq_self
    (h : ∀ config, u.pending = some config → config.appliesTo u.catalog.schema = false) :
    u.restorePending = u := by
  cases hpending : u.pending with
  | none => exact restorePending_of_none hpending
  | some config => exact restorePending_of_not_appliesTo hpending (h config hpending)

/-- Where nothing pending applies to them, tables are only put in place of the old ones. -/
theorem takeTables_of_not_appliesTo {asked : String}
    (h : ∀ config, s.pending = some config → config.appliesTo (schemaLabel asked tables) = false) :
    s.takeTables asked tables =
      { s with
        refresh := { s.refresh with state := .tablesReady, lastError := none } }.installCatalog
          (.ofTables (schemaLabel asked tables) tables) :=
  restorePending_eq_self h

/-- The selection over a new catalog holds the old tables, as the catalog has them. -/
theorem tables_installCatalog (s : Session) (label : Option String) (tables : List Table) :
    (s.installCatalog (.ofTables label tables)).selection.tables =
      s.selection.tables.filterMap fun t => Table.named? t.name tables := by
  refine (Selection.tables_redefine_retain s.selection (Table.firstOfName tables)).trans ?_
  exact List.filterMap_congr fun t _ => Table.named?_firstOfName t.name tables

/-- It is what is left of the old one when each table of the catalog is swapped in. -/
theorem Consistent.selection_installCatalog (h : s.Consistent) {c : Catalog}
    (hc : (Table.names c.tables).Nodup) :
    (s.installCatalog c).selection =
      c.tables.foldl Selection.swap (s.selection.retain fun t => c.contains t.name).2 :=
  Selection.redefine_eq_foldl
    (h.selection_distinct.sublist (Table.names_sublist List.filter_sublist)) hc

/-- The joins over a new catalog are the old ones whose ends it has, as far as they are selected. -/
theorem Consistent.joins_installCatalog (h : s.Consistent) {c : Catalog}
    (hc : (Table.names c.tables).Nodup) :
    (s.installCatalog c).joins.joins = s.joins.joins.filter (fun j =>
      j.left.SupportedBy (s.installCatalog c).selection ∧
        j.right.SupportedBy (s.installCatalog c).selection) :=
  JoinGraph.joins_cascadeFields (h.installCatalog hc).selection_distinct s.joins

/-- **What is left of a model over a new catalog.**  When tables arrive that no pending
configuration applies to, the selection holds in its old order the tables whose names came again,
each of them the first one of its name; the joins stay, in their old order, whose ends are both
fields of tables that are selected now; the fact table stays if it is still selected.  Mode,
connection, schemas and pending configuration are what they were.  The selection got there by
dropping the tables whose names did not come again, and swapping the catalog's tables in after that,
one by one. -/
theorem model_over_new_catalog (hs : s.Reachable)
    (hcurrent : s.refresh.isCurrent response.generation = true)
    (hok : response.result = .ok tables)
    (hpending : ∀ config, s.pending = some config →
      config.appliesTo (schemaLabel response.schema tables) = false) :
    let turn := s.applyTables response
    let selection := turn.session.selection
    turn.result = .current tables ∧
      turn.session.catalog = .ofTables (schemaLabel response.schema tables) tables ∧
      selection.tables = s.selection.tables.filterMap (fun t => Table.named? t.name tables) ∧
      turn.session.joins.joins = s.joins.joins.filter (fun j =>
        j.left.SupportedBy selection ∧ j.right.SupportedBy selection) ∧
      turn.session.fact.name = s.fact.name.filter (· ∈ selection.names) ∧
      turn.session.mode = s.mode ∧ turn.session.connection = s.connection ∧
      turn.session.refresh.schemas = s.refresh.schemas ∧ turn.session.pending = s.pending ∧
      selection = turn.session.catalog.tables.foldl Selection.swap
        (s.selection.retain fun t => turn.session.catalog.contains t.name).2 := by
  intro turn selection
  let ready : Session :=
    { s with refresh := { s.refresh with state := .tablesReady, lastError := none } }
  have hready : ready.Consistent := hs.consistent
  have hdistinct := Table.nodup_names_firstOfName tables
  have hturn : turn = _ := applyTables_of_ok hcurrent hok
  rw [takeTables_of_not_appliesTo hpending] at hturn
  clear_value turn
  subst hturn
  exact ⟨rfl, rfl, tables_installCatalog .., hready.joins_installCatalog hdistinct,
    FactTable.name_revalidate .., rfl, rfl, rfl, rfl, hready.selection_installCatalog hdistinct⟩

/-- A configuration for another schema than the shop's. -/
def staffConfig : SavedConfig := { schema := some "staff", tables := ["orders"] }

/-- The shop's tables, come again: of the two that are orders, the first has no customer. -/
def laterTables : List Table :=
  [⟨"customers", some "shop", [⟨"id", none⟩, ⟨"name", none⟩]⟩,
    ⟨"orders", some "shop", [⟨"number", none⟩]⟩,
    ⟨"orders", some "shop", [⟨"customer", none⟩]⟩]

/-- The response to the second request for the shop's tables. -/
def laterResponse : TableResponse := ⟨2, "shop", .ok laterTables⟩

/-- A session in which the shop's tables are joined, orders are the facts, and tables have been
asked for again. -/
def shopAgain : Session :=
  (start "first" shop .star (some staffConfig)).after
    (shopHistory ++ [.setFact (some "orders"), .requestTables])

/-- The join goes with its field, and the fact table stays. -/
theorem model_over_new_catalog_shop :
    let turn := shopAgain.applyTables laterResponse
    shopAgain.Reachable ∧ shopAgain.refresh.isCurrent laterResponse.generation = true ∧
      laterResponse.result = .ok laterTables ∧ shopAgain.pending = some staffConfig ∧
      staffConfig.appliesTo (schemaLabel laterResponse.schema laterTables) = false ∧
      shopAgain.joins.joins = [⟨⟨"orders", "customer"⟩, ⟨"customers", "id"⟩⟩] ∧
      turn.result = .current laterTables ∧
      turn.session.selection.tables =
        [⟨"orders", some "shop", [⟨"number", none⟩]⟩,
          ⟨"customers", some "shop", [⟨"id", none⟩, ⟨"name", none⟩]⟩] ∧
      turn.session.joins.joins = [] ∧ turn.session.fact.name = some "orders" := by
  intro turn
  have hreachable : shopAgain.Reachable := ⟨"first", shop, .star, some staffConfig, _, rfl⟩
  have hcurrent : shopAgain.refresh.isCurrent laterResponse.generation = true := rfl
  have hother : staffConfig.appliesTo (schemaLabel laterResponse.schema laterTables) = false := by
    decide
  have hpending : ∀ config, shopAgain.pending = some config →
      config.appliesTo (schemaLabel laterResponse.schema laterTables) = false := by
    rintro _ ⟨⟩
    exact hother
  obtain ⟨hresult, -, hselection, hjoins, hfact, -⟩ :=
    model_over_new_catalog hreachable hcurrent rfl hpending
  refine ⟨hreachable, hcurrent, rfl, rfl, hother, rfl, hresult, hselection.trans rfl,
    hjoins.trans ?_, hfact.trans rfl⟩
  decide

/-! ## Restored -/

namespace Restored

/-- What is selected is what the names of the configuration resolve to. -/
theorem tables_resolve (h : s.Restored config) :
    (config.resolve s.catalog).tables = s.selection.tables := by
  rw [h.selection, Selection.add_empty (config.nodup_names_resolve _)]

theorem nodup_names (h : s.Restored config) : s.selection.names.Nodup := by
  rw [h.selection, Selection.add_empty (config.nodup_names_resolve _)]
  exact config.nodup_names_resolve _

/-- The restored joins are those of the configuration that the selection admits, the first of each
edge. -/
theorem joins_eq (h : s.Restored config) :
    s.joins.joins = (Join.firstOfEdge config.joins).filter (·.AdmittedBy s.selection) := by
  have hadmitted : ∀ j ∈ config.joins, j.AdmittedBy s.selection →
      (j.left.isFieldOf s.selection.tables && j.right.isFieldOf s.selection.tables) = true := by
    rintro j - ⟨hl, hr, -⟩
    rw [hl.isFieldOf, hr.isFieldOf]
    rfl
  rw [h.joins, config.joins_resolve, h.tables_resolve, JoinGraph.addAll_filter h.nodup_names {}
    hadmitted, JoinGraph.joins_addAll h.nodup_names]
  refine List.filter_congr fun j _ => ?_
  simp [JoinGraph.contains]

/-- The restored fact table is that of the configuration, if it is selected. -/
theorem fact_name (h : s.Restored config) :
    s.fact.name = config.factTable.filter (· ∈ s.selection.names) := by
  rw [h.fact, FactTable.name_ofName, config.factTable_resolve, h.tables_resolve,
    Option.filter_filter]
  exact congrArg (config.factTable.filter ·) (funext fun _ => Bool.and_self _)

end Restored

/-- **What a restored configuration makes of new tables.**  When tables arrive that the pending
configuration applies to, the selection holds, in the configuration's order, the catalog's table of
each name that is in the catalog, once; the joins are, in the configuration's order, those that pair
fields of two different selected tables and are not the same edge as an earlier join of the
configuration; the fact table is the configuration's if it is selected, and else there is none.
Whatever the model was before, nothing of it is left. -/
theorem model_of_saved_config (hpending : s.pending = some config)
    (hcurrent : s.refresh.isCurrent response.generation = true)
    (hok : response.result = .ok tables)
    (happlies : config.appliesTo (schemaLabel response.schema tables) = true) :
    let turn := s.applyTables response
    let catalog := Catalog.ofTables (schemaLabel response.schema tables) tables
    let selection := turn.session.selection
    turn.result = .current tables ∧ turn.session.catalog = catalog ∧
      selection.tables = config.tables.eraseDups.filterMap catalog.find? ∧
      turn.session.joins.joins =
        (Join.firstOfEdge config.joins).filter (·.AdmittedBy selection) ∧
      turn.session.fact.name = config.factTable.filter (· ∈ selection.names) ∧
      turn.session.pending = none := by
  intro turn catalog selection
  have hcatalog : (s.takeTables response.schema tables).catalog = catalog :=
    catalog_takeTables ..
  obtain ⟨hnone, hrestored⟩ := restored_takeTables hpending happlies
  have hturn : turn = _ := applyTables_of_ok hcurrent hok
  clear_value turn
  subst hturn
  refine ⟨rfl, hcatalog, ?_, hrestored.joins_eq, hrestored.fact_name, hnone⟩
  rw [← hcatalog, ← config.tables_resolve]
  exact hrestored.tables_resolve.symm

/-- A configuration as anybody may have written it: a table that is not in the shop, a table named
twice, a join of a table with itself, a join declared again the other way round. -/
def roughConfig : SavedConfig where
  schema := some "shop"
  tables := ["customers", "suppliers", "orders", "customers"]
  joins := [
    ⟨⟨"orders", "customer"⟩, ⟨"orders", "customer"⟩⟩,
    ⟨⟨"customers", "id"⟩, ⟨"orders", "customer"⟩⟩,
    ⟨⟨"orders", "customer"⟩, ⟨"customers", "id"⟩⟩,
    ⟨⟨"orders", "supplier"⟩, ⟨"suppliers", "id"⟩⟩]
  factTable := some "suppliers"

/-- A session that is to restore it. -/
def roughStart : Session := (start "third" shop .flat (some roughConfig)).after [.requestTables]

/-- The response to its request. -/
def shopResponse : TableResponse := ⟨1, "shop", .ok shopTables⟩

/-- Of the rough configuration, one join of two tables is left. -/
theorem model_of_saved_config_shop :
    let turn := roughStart.applyTables shopResponse
    roughStart.pending = some roughConfig ∧
      roughStart.refresh.isCurrent shopResponse.generation = true ∧
      shopResponse.result = .ok shopTables ∧
      roughConfig.appliesTo (schemaLabel shopResponse.schema shopTables) = true ∧
      turn.result = .current shopTables ∧
      turn.session.selection.names = ["customers", "orders"] ∧
      turn.session.joins.joins = [⟨⟨"customers", "id"⟩, ⟨"orders", "customer"⟩⟩] ∧
      turn.session.fact.name = none ∧ turn.session.pending = none := by
  intro turn
  have hcurrent : roughStart.refresh.isCurrent shopResponse.generation = true := rfl
  have happlies : roughConfig.appliesTo (schemaLabel shopResponse.schema shopTables) = true := by
    decide
  obtain ⟨hresult, -, hselection, hjoins, hfact, hnone⟩ :=
    model_of_saved_config (show roughStart.pending = some roughConfig from rfl) hcurrent rfl
      happlies
  refine ⟨rfl, hcurrent, rfl, happlies, hresult, ?_, hjoins.trans ?_, hfact.trans ?_, hnone⟩
  · exact (congrArg (List.map Table.name) hselection).trans (by decide)
  · decide
  · decide

end Session
end JoinWizard
