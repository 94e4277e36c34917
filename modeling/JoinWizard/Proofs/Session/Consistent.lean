/-
# The model of a session stays consistent

Catalog, selection, joins and fact table of a session belong together: the selection holds the
catalog's own tables, the joins pair fields of them, the fact table is one of them
(`ModelConsistent`).

Each operation repairs only what it can have broken.  A deselection drops the joins on the tables
that are gone and a fact table among them; it may leave the fields alone because every definition
is still the catalog's.  A new catalog gives the selected tables their new definitions before it
looks at the fields.  A restored configuration is declared join by join, as a user would do it.
So one operation keeps the model consistent (`Consistent.act`), and a session that starts with
nothing is consistent after any history (`Consistent.after`).
-/

import JoinWizard.Session.Action
import JoinWizard.Proofs.JoinGraph

namespace JoinWizard
namespace FactTable

variable {s : Selection} {fact : FactTable} {name : String}

/-- A table that is selected is chosen, and any other choice is none. -/
theorem name_ofName (choice : Option String) (s : Selection) :
    (ofName choice s).name = choice.filter (· ∈ s.names) := by
  have hsame : s.contains = fun name => decide (name ∈ s.names) := funext fun name => by
    rw [Bool.eq_iff_iff, Selection.contains_iff, decide_eq_true_iff]
  rw [ofName, hsame]

/-- A choice stays exactly if it is still selected. -/
theorem name_revalidate (fact : FactTable) (s : Selection) :
    (fact.revalidate s).name = fact.name.filter (· ∈ s.names) := by
  cases hname : fact.name with
  | none => simp [revalidate, isDangling, hname]
  | some name =>
    rw [revalidate, isDangling, hname, Option.any_some, Option.filter_some]
    by_cases hn : name ∈ s.names
    · simp [Selection.contains_iff.2 hn, hn, hname]
    · simp [Selection.contains_eq_false_iff.2 hn, hn]

theorem mem_names_of_ofName {choice : Option String} (h : (ofName choice s).name = some name) :
    name ∈ s.names :=
  Selection.contains_iff.1 (Option.filter_eq_some_iff.1 h).2

theorem mem_names_of_revalidate (h : (fact.revalidate s).name = some name) : name ∈ s.names := by
  unfold revalidate at h
  split at h
  · cases h
  · next hd =>
    rw [isDangling, h, Option.any_some, Bool.not_eq_true, Bool.not_eq_false'] at hd
    exact Selection.contains_iff.1 hd

/-- A fact table that is selected stays. -/
theorem revalidate_eq_self (h : ∀ name, fact.name = some name → name ∈ s.names) :
    fact.revalidate s = fact := by
  have hselected : fact.isDangling s = false := by
    rw [isDangling, Option.any_eq_false]
    intro name hname
    rw [Selection.contains_iff.2 (h name hname)]
    rfl
  rw [revalidate, hselected]
  rfl

end FactTable

/-- Catalog, selection, joins and fact table belong together. -/
structure ModelConsistent (c : Catalog) (s : Selection) (g : JoinGraph) (fact : FactTable) :
    Prop where
  catalog_distinct : (Table.names c.tables).Nodup
  selection_distinct : s.names.Nodup
  /-- A selected table is the catalog's table of its name, with all its fields. -/
  selection_defined : ∀ t ∈ s.tables, c.find? t.name = some t
  joins_sound : g.Sound s
  fact_selected : ∀ name, fact.name = some name → name ∈ s.names

namespace ModelConsistent

variable {c : Catalog} {s rest : Selection} {g : JoinGraph} {fact : FactTable}

/-- Nothing at all is consistent. -/
theorem empty : ModelConsistent {} {} {} {} where
  catalog_distinct := List.nodup_nil
  selection_distinct := List.nodup_nil
  selection_defined _ h := absurd h List.not_mem_nil
  joins_sound := JoinGraph.sound_empty _
  fact_selected _ h := nomatch h

/-- **Selecting tables of the catalog** keeps a model consistent. -/
theorem add (h : ModelConsistent c s g fact) {tables : List Table} (hsub : tables ⊆ c.tables) :
    ModelConsistent c (s.add tables) g fact where
  catalog_distinct := h.catalog_distinct
  selection_distinct := Selection.nodup_names_add h.selection_distinct tables
  selection_defined t ht := by
    rcases List.mem_append.1 ht with ht | ht
    · exact h.selection_defined t ht
    · have : t ∈ c.tables := hsub ((Selection.additions_sublist s tables).subset ht)
      exact Table.named?_of_mem h.catalog_distinct this
  joins_sound := h.joins_sound.mono (List.subset_append_left _ _)
  fact_selected name hn := by
    obtain ⟨t, ht, he⟩ := Table.mem_names.1 (h.fact_selected name hn)
    exact Table.mem_names.2 ⟨t, List.mem_append_left _ ht, he⟩

/-- **Deselecting tables** keeps a model consistent, with the joins and the fact table that have
lost a table. -/
theorem deselect (h : ModelConsistent c s g fact) (hsub : rest.tables.Sublist s.tables) :
    ModelConsistent c rest (g.cascade rest).2 (fact.revalidate rest) where
  catalog_distinct := h.catalog_distinct
  selection_distinct := h.selection_distinct.sublist (Table.names_sublist hsub)
  selection_defined t ht := h.selection_defined t (hsub.subset ht)
  joins_sound := h.joins_sound.cascade h.selection_distinct hsub
  fact_selected _ hn := FactTable.mem_names_of_revalidate hn

/-- Other joins that are sound keep a model consistent. -/
theorem withJoins {g' : JoinGraph} (h : ModelConsistent c s g fact) (hg : g'.Sound s) :
    ModelConsistent c s g' fact :=
  ⟨h.catalog_distinct, h.selection_distinct, h.selection_defined, hg, h.fact_selected⟩

/-- So does any choice of a fact table by name. -/
theorem withFact (h : ModelConsistent c s g fact) (choice : Option String) :
    ModelConsistent c s g (.ofName choice s) :=
  ⟨h.catalog_distinct, h.selection_distinct, h.selection_defined, h.joins_sound,
    fun _ hn => FactTable.mem_names_of_ofName hn⟩

/-- A fact table that was chosen is found among the selected tables. -/
theorem isSome_table? (h : ModelConsistent c s g fact) :
    (fact.table? s).isSome = fact.name.isSome := by
  rw [FactTable.table?]
  cases hn : fact.name with
  | none => rfl
  | some name =>
    have hname : s.contains name = true := Selection.contains_iff.2 (h.fact_selected name hn)
    rw [Option.bind_some, Selection.isSome_find?, hname]
    rfl

/-- Where a fact table is chosen, something is selected. -/
theorem size_pos (h : ModelConsistent c s g fact) (hn : fact.name ≠ none) : 0 < s.size := by
  obtain ⟨name, hname⟩ := Option.ne_none_iff_exists'.1 hn
  obtain ⟨t, ht, -⟩ := Table.mem_names.1 (h.fact_selected name hname)
  exact List.length_pos_of_mem ht

/-- An empty catalog leaves nothing to select. -/
theorem selection_eq_nil (h : ModelConsistent c s g fact) (hc : c.tables = []) : s.tables = [] := by
  refine List.eq_nil_iff_forall_not_mem.2 fun t ht => ?_
  have := h.selection_defined t ht
  rw [Catalog.find?, hc] at this
  cases this

end ModelConsistent

namespace Session

variable {s : Session}

/-- The model of the session is consistent. -/
def Consistent (s : Session) : Prop := ModelConsistent s.catalog s.selection s.joins s.fact

theorem consistent_start (id : String) (connection : Connection) (mode : Mode)
    (saved : Option SavedConfig) : (start id connection mode saved).Consistent := .empty

section Ending

variable {α : Type}

theorem Consistent.publish (h : s.Consistent) (before : List Notice) (result : α) :
    (s.publish before result).session.Consistent := h

theorem Consistent.publishIfChanged (h : s.Consistent) (before : List Notice) (result : α) :
    (s.publishIfChanged before result).session.Consistent := by
  unfold Session.publishIfChanged
  split
  · exact h
  · exact h.publish before result

end Ending

/-! ## Edits -/

theorem Consistent.addTables (h : s.Consistent) (names : List String) :
    (s.addTables names).session.Consistent :=
  ModelConsistent.add h List.filter_sublist.subset

theorem Consistent.removeTables (h : s.Consistent) (names : List String) :
    (s.removeTables names).session.Consistent := by
  unfold Session.removeTables
  have hsub := Selection.remove_sublist h.selection_distinct names
  split
  · exact h
  · next rest _ hr =>
    rw [hr] at hsub
    exact ModelConsistent.deselect h hsub

theorem Consistent.addJoin (h : s.Consistent) (j : Join) :
    (s.addJoin j).session.Consistent := by
  unfold Session.addJoin
  cases ha : s.joins.add j s.selection with
  | error e => exact h
  | ok joins => exact ModelConsistent.withJoins h (h.joins_sound.add ha)

theorem Consistent.removeJoin (h : s.Consistent) (j : Join) :
    (s.removeJoin j).session.Consistent := by
  unfold Session.removeJoin
  split
  · exact ModelConsistent.withJoins h (h.joins_sound.sublist List.filter_sublist)
  · exact h

theorem Consistent.setFact (h : s.Consistent) (name : Option String) :
    (s.setFact name).session.Consistent :=
  ModelConsistent.withFact h name

theorem Consistent.pickFact (h : s.Consistent) (index : Int32) :
    (s.pickFact index).session.Consistent :=
  ModelConsistent.withFact h _

/-! ## Requests -/

theorem Consistent.requestTablesOf (h : s.Consistent) (schema : Option String) :
    (s.requestTablesOf schema).session.Consistent :=
  Consistent.publishIfChanged (s := { s with refresh := (s.refresh.requestTables schema).1 }) h _ _

theorem Consistent.requestSchemas (h : s.Consistent) : s.requestSchemas.session.Consistent :=
  Consistent.publishIfChanged (s := { s with refresh := s.refresh.requestSchemas.1 }) h _ _

theorem Consistent.activateForward (h : s.Consistent) : s.activateForward.session.Consistent := by
  unfold Session.activateForward Turn.andThen
  have hp : (({ s with activated := true } : Session).publish [] ()).session.Consistent := h
  dsimp only
  split
  · exact hp.requestTablesOf none
  · exact hp

theorem Consistent.selectSchema (h : s.Consistent) (schema : String) :
    (s.selectSchema schema).session.Consistent := by
  unfold Session.selectSchema
  split
  · exact h.requestTablesOf (some schema)
  · exact h

/-! ## Responses -/

theorem Consistent.applySchemas (h : s.Consistent) (response : SchemaResponse) :
    (s.applySchemas response).session.Consistent := by
  unfold Session.applySchemas
  dsimp only
  split <;> exact h

/-- **A new catalog:** the selected tables it has are given its definitions, and what they no
longer bear out goes. -/
theorem Consistent.installCatalog (h : s.Consistent) {c : Catalog}
    (hc : (Table.names c.tables).Nodup) : (s.installCatalog c).Consistent := by
  have hnames : (s.installCatalog c).selection.names
      = Table.names (s.selection.tables.filter fun t => c.contains t.name) :=
    Selection.names_redefine _ _
  refine ⟨hc, ?_, fun t ht => ?_, h.joins_sound.cascadeFields _,
    fun _ hn => FactTable.mem_names_of_revalidate hn⟩
  · rw [hnames]
    exact h.selection_distinct.sublist (Table.names_sublist List.filter_sublist)
  · -- A table that was kept has a name of the catalog, so it was given the catalog's definition.
    have hn : t.name ∈ (s.installCatalog c).selection.names := Table.mem_names_of_mem ht
    rw [hnames] at hn
    obtain ⟨u, hu, he⟩ := Table.mem_names.1 hn
    have hc : t.name ∈ Table.names c.tables :=
      he ▸ Table.isSome_named?.1 (List.mem_filter.1 hu).2
    exact Selection.named?_of_mem_redefine ht hc

/-- **A catalog of the same tables** takes nothing from the model. -/
theorem Consistent.installCatalog_eq (h : s.Consistent) {c : Catalog}
    (hc : c.tables = s.catalog.tables) : s.installCatalog c = { s with catalog := c } := by
  have hdefined : ∀ t ∈ s.selection.tables, Table.named? t.name c.tables = some t := by
    rw [hc]
    exact h.selection_defined
  have hretain : (s.selection.retain fun t => c.contains t.name).2 = s.selection := by
    refine congrArg Selection.mk (List.filter_eq_self.2 fun t ht => ?_)
    rw [Catalog.contains, Catalog.find?, hdefined t ht]
    rfl
  rw [Session.installCatalog, hretain, Selection.redefine_eq_self hdefined,
    h.joins_sound.cascadeFields_eq h.selection_distinct,
    FactTable.revalidate_eq_self h.fact_selected]

/-- **A restored configuration** is consistent with the catalog it is restored over. -/
theorem Consistent.restore (h : s.Consistent) (config : SavedConfig) :
    (s.restore config).Consistent := by
  have hnames : (Table.names (config.resolve s.catalog).tables).Nodup :=
    Table.nodup_names_firstOfName _
  refine ⟨h.catalog_distinct, ?_, fun t ht => ?_, (JoinGraph.sound_empty _).addAll _,
    fun _ hn => FactTable.mem_names_of_ofName hn⟩
  · exact Selection.nodup_names_add (s := {}) List.nodup_nil _
  · have hsel : (s.restore config).selection = ⟨(config.resolve s.catalog).tables⟩ :=
      Selection.add_empty hnames
    rw [hsel] at ht
    obtain ⟨name, _, hf⟩ := List.mem_filterMap.1 ((Table.firstOfName_sublist _).subset ht)
    exact Table.named?_of_mem h.catalog_distinct (Table.mem_of_named? hf)

theorem Consistent.restorePending (h : s.Consistent) : s.restorePending.Consistent := by
  unfold Session.restorePending
  split
  · exact h
  · split
    · exact h.restore _
    · exact h

theorem Consistent.applyTables (h : s.Consistent) (response : TableResponse) :
    (s.applyTables response).session.Consistent := by
  unfold Session.applyTables
  dsimp only
  split
  · exact h
  · exact h
  · refine Consistent.restorePending (Consistent.installCatalog
      (s := { s with refresh := (s.refresh.acceptTables response).1 }) h ?_)
    exact Table.nodup_names_firstOfName _

/-! ## Histories -/

/-- **One operation keeps the model consistent.** -/
theorem Consistent.act (h : s.Consistent) (a : Action) : (s.act a).session.Consistent := by
  cases a with
  | addTables names => exact h.addTables names
  | removeTables names => exact h.removeTables names
  | addJoin j => exact h.addJoin j
  | removeJoin j => exact h.removeJoin j
  | setFact name => exact h.setFact name
  | pickFact index => exact h.pickFact index
  | setMode mode => exact h
  | activateForward => exact h.activateForward
  | activateReverse => exact h
  | setConnection c => exact .empty
  | selectSchema schema => exact h.selectSchema schema
  | requestSchemas => exact h.requestSchemas
  | requestTables => exact h.requestTablesOf none
  | applySchemas response => exact h.applySchemas response
  | applyTables response => exact h.applyTables response

theorem Consistent.after (h : s.Consistent) (history : List Action) :
    (s.after history).Consistent := by
  induction history generalizing s with
  | nil => exact h
  | cons a history ih => exact ih (h.act a)

/-- **The model is consistent after any history:** whatever is done to a session, in whatever order
responses arrive, and whatever the configuration it was to restore. -/
theorem consistent_after_start (id : String) (connection : Connection) (mode : Mode)
    (saved : Option SavedConfig) (history : List Action) :
    ((start id connection mode saved).after history).Consistent :=
  (consistent_start id connection mode saved).after history

end Session
end JoinWizard
