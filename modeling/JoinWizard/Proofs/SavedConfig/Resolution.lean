/-
# Resolving accounts for every name

A saved configuration may have been written by anybody: names twice, names of nothing, joins of
tables that it does not select, a fact table that is none of its tables.  Resolving it against a
catalog loses nothing without saying so.  All that was saved is parted in two, in the order and with
the repeats it was saved with:

| saved | resolved | dropped |
| --- | --- | --- |
| a name of a table | in the catalog: its table, once | not in the catalog |
| a join | both ends are fields of resolved tables | any other |
| the fact table | one of the resolved tables | any other, and there is none |

A repeat of a resolved name is neither: its table is there already.  The second row asks the
resolved tables and not the catalog, so a join on a table of the catalog that is not selected is
dropped.

What is resolved is borne out by the catalog, so saving it by name and resolving it again drops
nothing more (`SavedConfig.resolve_again`).
-/

import JoinWizard.Proofs.JoinGraph.Cascades
import JoinWizard.Proofs.SavedConfig

namespace JoinWizard

namespace ResolvedConfig

/-- The names of what was resolved, to be saved under a schema or under none. -/
def toConfig (r : ResolvedConfig) (schema : Option String) : SavedConfig :=
  ⟨schema, Table.names r.tables, r.joins, r.factTable⟩

/-- What a catalog makes of a configuration accounts for all that the configuration names. -/
structure AccountsFor (r : ResolvedConfig) (config : SavedConfig) (c : Catalog) : Prop where
  tables_distinct : (Table.names r.tables).Nodup
  /-- Each name that the catalog has stands for its table there, where the name comes first. -/
  tables_eq : r.tables = config.tables.eraseDups.filterMap c.find?
  droppedTables_eq : r.droppedTables = config.tables.filter (· ∉ Table.names c.tables)
  /-- Every name is dropped or that of a resolved table, and not both. -/
  name_parted : ∀ name ∈ config.tables, name ∈ r.droppedTables ↔ name ∉ Table.names r.tables
  /-- Every join is dropped or resolved, by the resolved tables, as often as it was saved. -/
  joins_parted : (JoinGraph.mk config.joins).PartedBy
    (fun j => j.left.SupportedBy ⟨r.tables⟩ ∧ j.right.SupportedBy ⟨r.tables⟩)
    (r.droppedJoins, ⟨r.joins⟩)
  /-- A join on a table that the configuration does not list is dropped, whatever the catalog
  has. -/
  joins_listed : ∀ j ∈ r.joins, j.left.table ∈ config.tables ∧ j.right.table ∈ config.tables
  factTable_iff : ∀ name, r.factTable = some name ↔
    config.factTable = some name ∧ name ∈ Table.names r.tables
  /-- Resolved again, nothing is dropped and all else is as it was. -/
  resolved_again : ∀ schema, (r.toConfig schema).resolve c =
    { tables := r.tables, joins := r.joins, factTable := r.factTable }

end ResolvedConfig

namespace SavedConfig

variable {config : SavedConfig} {c : Catalog} {name : String} {t : Table} {j : Join}

/-- A resolved table is the catalog's table of its name. -/
theorem find?_of_mem_resolve (h : t ∈ (config.resolve c).tables) : c.find? t.name = some t := by
  rw [tables_resolve] at h
  obtain ⟨name, -, hfind⟩ := List.mem_filterMap.1 h
  rwa [Table.name_of_named? hfind]

/-- A name is resolved exactly if it was saved and the catalog has it. -/
theorem mem_names_resolve : name ∈ Table.names (config.resolve c).tables ↔
    name ∈ config.tables ∧ name ∈ Table.names c.tables := by
  rw [Table.mem_names, tables_resolve, ← Table.isSome_named?, Option.isSome_iff_exists]
  simp only [List.mem_filterMap, List.mem_eraseDups]
  constructor
  · rintro ⟨t, ⟨other, hsaved, hfind⟩, rfl⟩
    have hname : t.name = other := Table.name_of_named? hfind
    exact ⟨hname ▸ hsaved, t, hname ▸ hfind⟩
  · rintro ⟨hsaved, t, hfind⟩
    exact ⟨t, ⟨name, hsaved, hfind⟩, Table.name_of_named? hfind⟩

theorem droppedTables_resolve (config : SavedConfig) (c : Catalog) :
    (config.resolve c).droppedTables = config.tables.filter (· ∉ Table.names c.tables) := by
  refine List.filter_congr fun name _ => ?_
  rw [Bool.eq_iff_iff, decide_eq_true_iff, Bool.not_eq_true', ← Bool.not_eq_true, Catalog.contains,
    Catalog.find?, Table.isSome_named?]

theorem factTable_resolve_eq_some_iff : (config.resolve c).factTable = some name ↔
    config.factTable = some name ∧ name ∈ Table.names (config.resolve c).tables := by
  rw [factTable_resolve, Option.filter_eq_some_iff, decide_eq_true_iff]

/-- **The joins are parted by the resolved tables.** -/
theorem joins_resolve_parted (config : SavedConfig) (c : Catalog) :
    (JoinGraph.mk config.joins).PartedBy
      (fun j => j.left.SupportedBy ⟨(config.resolve c).tables⟩ ∧
        j.right.SupportedBy ⟨(config.resolve c).tables⟩)
      ((config.resolve c).droppedJoins, ⟨(config.resolve c).joins⟩) := by
  refine JoinGraph.partedBy_retain fun j => ?_
  rw [Bool.and_eq_true]
  exact and_congr Endpoint.isFieldOf_iff Endpoint.isFieldOf_iff

/-- A resolved join is on tables that were saved. -/
theorem listed_of_mem_joins (h : j ∈ (config.resolve c).joins) :
    j.left.table ∈ config.tables ∧ j.right.table ∈ config.tables := by
  obtain ⟨hleft, hright⟩ := (joins_resolve_parted config c).left j h
  exact ⟨(mem_names_resolve.1 hleft.mem_names).1, (mem_names_resolve.1 hright.mem_names).1⟩

/-- **What was resolved once is resolved again**, and nothing more is dropped. -/
theorem resolve_again (config : SavedConfig) (c : Catalog) (schema : Option String) :
    ((config.resolve c).toConfig schema).resolve c =
      { tables := (config.resolve c).tables
        joins := (config.resolve c).joins
        factTable := (config.resolve c).factTable } :=
  resolve_of_found (nodup_names_resolve config c) (fun _ => find?_of_mem_resolve)
    (fun _ hj => (List.mem_filter.1 hj).2)
    (fun _ hname => (factTable_resolve_eq_some_iff.1 hname).2) schema

/-- **Resolving accounts for every name,** whatever the configuration and whatever the catalog. -/
theorem resolve_accountsFor (config : SavedConfig) (c : Catalog) :
    (config.resolve c).AccountsFor config c where
  tables_distinct := nodup_names_resolve config c
  tables_eq := tables_resolve config c
  droppedTables_eq := droppedTables_resolve config c
  name_parted name hname := by
    rw [droppedTables_resolve, List.mem_filter, decide_eq_true_iff, mem_names_resolve]
    simp only [hname, true_and]
  joins_parted := joins_resolve_parted config c
  joins_listed _ := listed_of_mem_joins
  factTable_iff _ := factTable_resolve_eq_some_iff
  resolved_again := resolve_again config c

/-- Suppliers are in the catalog but not selected, so the joins on them go, as often as they were
saved; stores are selected but not in the catalog. -/
example :
    let orders : Table := ⟨"orders", none, [⟨"customer", none⟩, ⟨"supplier", none⟩]⟩
    let customers : Table := ⟨"customers", none, [⟨"id", none⟩]⟩
    let suppliers : Table := ⟨"suppliers", none, [⟨"id", none⟩]⟩
    let sold : Join := ⟨⟨"orders", "customer"⟩, ⟨"customers", "id"⟩⟩
    let supplied : Join := ⟨⟨"orders", "supplier"⟩, ⟨"suppliers", "id"⟩⟩
    resolve ⟨none, ["customers", "stores", "orders", "customers", "stores"],
        [supplied, sold, supplied, sold], some "suppliers"⟩ ⟨none, [orders, customers, suppliers]⟩ =
      ⟨[customers, orders], [sold, sold], none, ["stores", "stores"], [supplied, supplied]⟩ := by
  decide

end SavedConfig
end JoinWizard
