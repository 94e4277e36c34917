/-
# A consistent model, saved by name, resolves to itself

Names lose the definitions, and resolving looks them up in a catalog.  Nothing is dropped of a list
of tables that the catalog has as they are, with joins of their fields and one of them for the fact
table (`SavedConfig.resolve_of_found`).  A consistent model over that catalog is such a one
(`ModelConsistent.resolve_eq`), so what is restored of it is the model itself.
-/

import JoinWizard.Proofs.Session.Consistent
import JoinWizard.Snapshot

namespace JoinWizard

namespace Endpoint

variable {e : Endpoint} {s : Selection}

/-- A supported endpoint is a field of the selected tables. -/
theorem isFieldOf_iff : e.isFieldOf s.tables = true ↔ e.SupportedBy s := by
  rw [isFieldOf, List.any_eq_true]
  refine exists_congr fun t => and_congr_right fun _ => ?_
  rw [Bool.and_eq_true, decide_eq_true_iff, Table.hasField_iff]

theorem SupportedBy.isFieldOf (h : e.SupportedBy s) : e.isFieldOf s.tables = true :=
  isFieldOf_iff.2 h

end Endpoint

namespace SavedConfig

variable (config : SavedConfig) (c : Catalog)

/-- The tables that names resolve to: those the catalog has, each name once, in the order in which
the names come first. -/
theorem tables_resolve :
    (config.resolve c).tables = config.tables.eraseDups.filterMap c.find? :=
  Table.firstOfName_filterMap (fun _ _ => Table.name_of_named?) config.tables

theorem nodup_names_resolve : (Table.names (config.resolve c).tables).Nodup :=
  Table.nodup_names_firstOfName _

/-- The joins that stay are those whose ends are both fields of these tables. -/
theorem joins_resolve : (config.resolve c).joins = config.joins.filter fun j =>
    j.left.isFieldOf (config.resolve c).tables && j.right.isFieldOf (config.resolve c).tables :=
  rfl

/-- The fact table stays if it is one of these tables. -/
theorem factTable_resolve : (config.resolve c).factTable =
    config.factTable.filter (· ∈ Table.names (config.resolve c).tables) := by
  refine congrArg (config.factTable.filter ·) (funext fun name => ?_)
  rw [Bool.eq_iff_iff, decide_eq_true_iff, Table.mem_names, List.any_eq_true]
  exact exists_congr fun t => and_congr_right fun _ => decide_eq_true_iff

variable {c} {tables : List Table} {joins : List Join} {fact : Option String}

/-- **Nothing is dropped of what the catalog bears out:** tables of distinct names that it has as
they are, joins whose ends are fields of them, a fact table among them. -/
theorem resolve_of_found (hdistinct : (Table.names tables).Nodup)
    (hfound : ∀ t ∈ tables, c.find? t.name = some t)
    (hjoins : ∀ j ∈ joins, (j.left.isFieldOf tables && j.right.isFieldOf tables) = true)
    (hfact : ∀ name, fact = some name → name ∈ Table.names tables) (schema : Option String) :
    resolve ⟨schema, Table.names tables, joins, fact⟩ c =
      { tables, joins, factTable := fact } := by
  have hself : (Table.names tables).filterMap c.find? = tables := by
    rw [Table.names, List.filterMap_map]
    exact (List.filterMap_congr hfound).trans List.filterMap_some
  have htables : Table.firstOfName ((Table.names tables).filterMap c.find?) = tables := by
    rw [hself, Table.firstOfName_eq_self hdistinct]
  have hkept : fact.filter (fun name => tables.any (·.name = name)) = fact := by
    cases fact with
    | none => rfl
    | some name =>
      obtain ⟨t, ht, hn⟩ := Table.mem_names.1 (hfact name rfl)
      exact Option.filter_some_pos (List.any_eq_true.2 ⟨t, ht, decide_eq_true hn⟩)
  have hnames : (Table.names tables).filter (fun name => !c.contains name) = [] := by
    rw [List.filter_eq_nil_iff]
    intro name hname
    obtain ⟨t, ht, rfl⟩ := Table.mem_names.1 hname
    simp [Catalog.contains, hfound t ht]
  have hdropped :
      joins.filter (fun j => !(j.left.isFieldOf tables && j.right.isFieldOf tables)) = [] := by
    rw [List.filter_eq_nil_iff]
    intro j hj
    simp [hjoins j hj]
  simp only [resolve, htables, hkept, hnames, hdropped, List.filter_eq_self.2 hjoins]

end SavedConfig

namespace ModelConsistent

variable {c : Catalog} {s : Selection} {g : JoinGraph} {fact : FactTable}

/-- **A consistent model resolves to itself**, and nothing of it is dropped. -/
theorem resolve_eq (h : ModelConsistent c s g fact) (schema : Option String) :
    SavedConfig.resolve ⟨schema, s.names, g.joins, fact.name⟩ c =
      { tables := s.tables, joins := g.joins, factTable := fact.name } := by
  refine SavedConfig.resolve_of_found h.selection_distinct h.selection_defined (fun j hj => ?_)
    h.fact_selected schema
  rw [(h.joins_sound.left_supported j hj).isFieldOf, (h.joins_sound.right_supported j hj).isFieldOf]
  rfl

end ModelConsistent

namespace Session

variable {s u : Session}

/-- **A consistent session is restored from its configuration** over the same catalog: selection,
joins and fact table are what they were. -/
theorem Consistent.restore_toConfig (h : s.Consistent) (hc : u.catalog = s.catalog)
    (schema : Option String) :
    u.restore ⟨schema, s.selection.names, s.joins.joins, s.fact.name⟩ =
      { u with selection := s.selection, joins := s.joins, fact := s.fact } := by
  have hselection : ({} : Selection).add s.selection.tables = s.selection :=
    Selection.add_empty h.selection_distinct
  have hjoins : ({} : JoinGraph).addAll s.joins.joins s.selection = s.joins :=
    h.joins_sound.addAll_eq h.selection_distinct
  have hfact : FactTable.ofName s.fact.name s.selection = s.fact := by
    have hkept : s.fact.name.filter s.selection.contains = s.fact.name := by
      cases hname : s.fact.name with
      | none => rfl
      | some name =>
        exact Option.filter_some_pos (Selection.contains_iff.2 (h.fact_selected name hname))
    rw [FactTable.ofName, hkept]
  rw [Session.restore, hc, ModelConsistent.resolve_eq h]
  simp only [hselection, hjoins, hfact]

end Session
end JoinWizard
