/-
# Selecting tables of the catalog

Tables are asked for by name, in any order and with repetitions, and the catalog is gone through for
them once.  So what is appended to the selection are the tables of the catalog that are named and
not selected yet (`Session.newTables`), in the catalog's order; nothing is appended twice, for the
names of a catalog are distinct.  A second call finds all of them selected, and taking out what was
new leads back, for no join and no fact table can have to do with a table that was not selected.

The selected tables are the catalog's own.  So the catalog is at any time, up to order, what is
selected and what is available (`Session.model_after_addition`).
-/

import JoinWizard.Proofs.Session.Removal

namespace JoinWizard
namespace Session

variable {s : Session} {names : List String}

/-- The tables of the catalog that are named and not selected. -/
def newTables (s : Session) (names : List String) : List Table :=
  s.catalog.tables.filter fun t => t.name ∈ names ∧ t.name ∉ s.selection.names

theorem mem_newTables {t : Table} :
    t ∈ s.newTables names ↔ t ∈ s.catalog.tables ∧ t.name ∈ names ∧ t.name ∉ s.selection.names := by
  rw [newTables, List.mem_filter, decide_eq_true_iff]

/-- A name that is new is not selected. -/
theorem not_mem_names_of_new {name : String} (h : name ∈ Table.names (s.newTables names)) :
    name ∉ s.selection.names := by
  obtain ⟨t, ht, rfl⟩ := Table.mem_names.1 h
  exact (mem_newTables.1 ht).2.2

/-- **Selecting appends the tables that are new.** -/
theorem Consistent.addTables_eq (h : s.Consistent) (names : List String) :
    s.addTables names =
      { s with selection := ⟨s.selection.tables ++ s.newTables names⟩ }.publish []
        (s.newTables names).length := by
  have hnew : s.selection.additions (s.catalog.tables.filter fun t => names.contains t.name) =
      s.newTables names := by
    have hfilter : (s.catalog.tables.filter fun t => names.contains t.name).filter
        (fun t => !s.selection.contains t.name) = s.newTables names := by
      rw [List.filter_filter]
      refine List.filter_congr fun t _ => ?_
      rw [Bool.eq_iff_iff, Bool.and_eq_true, Bool.not_eq_true', Selection.contains_eq_false_iff,
        List.contains_iff_mem, decide_eq_true_iff, and_comm]
    have hdistinct : (Table.names (s.newTables names)).Nodup :=
      h.catalog_distinct.sublist (Table.names_sublist List.filter_sublist)
    rw [Selection.additions, hfilter, Table.firstOfName_eq_self hdistinct]
  rw [Session.addTables, Selection.add, hnew]

/-- Only the set of names matters. -/
theorem addTables_congr {others : List String} (h : ∀ name, name ∈ others ↔ name ∈ names) :
    s.addTables others = s.addTables names := by
  have hcontains : ∀ name, others.contains name = names.contains name := fun name => by
    rw [Bool.eq_iff_iff, List.contains_iff_mem, List.contains_iff_mem, h]
  simp only [addTables, hcontains]

/-- Once they are selected, no table of the names is new. -/
theorem Consistent.newTables_addTables (h : s.Consistent) (names : List String) :
    (s.addTables names).session.newTables names = [] := by
  rw [h.addTables_eq]
  refine List.filter_eq_nil_iff.2 fun t ht hnew => ?_
  obtain ⟨hnamed, hfree⟩ := of_decide_eq_true hnew
  have hmem (u : Table) (hu : u ∈ s.selection.tables ++ s.newTables names) :
      u.name ∈ Table.names (s.selection.tables ++ s.newTables names) := Table.mem_names_of_mem hu
  by_cases hold : t.name ∈ s.selection.names
  · obtain ⟨u, hu, he⟩ := Table.mem_names.1 hold
    exact hfree (he ▸ hmem u (List.mem_append_left _ hu))
  · exact hfree (hmem t (List.mem_append_right _ (mem_newTables.2 ⟨ht, hnamed, hold⟩)))

/-- **Leaving out what is new leads back.** -/
theorem Consistent.without_new (h : s.Consistent) {gone : List String}
    (hgone : ∀ name, name ∈ gone ↔ name ∈ Table.names (s.newTables names)) :
    { s with selection := ⟨s.selection.tables ++ s.newTables names⟩ }.without gone = s := by
  have hstays {name : String} (hname : name ∈ s.selection.names) : name ∉ gone := fun hmem =>
    not_mem_names_of_new ((hgone name).1 hmem) hname
  have hselection : (s.selection.tables ++ s.newTables names).filter (·.name ∉ gone) =
      s.selection.tables := by
    rw [List.filter_append, List.filter_eq_self.2, List.filter_eq_nil_iff.2, List.append_nil]
    · intro t ht
      simpa using (hgone t.name).2 (Table.mem_names_of_mem ht)
    · intro t ht
      exact decide_eq_true (hstays (Table.mem_names_of_mem ht))
  have hjoins : s.joins.joins.filter (fun j => ∀ name ∈ gone, j.touches name = false) =
      s.joins.joins := by
    refine List.filter_eq_self.2 fun j hj => decide_eq_true fun name hname => ?_
    have hne {e : Endpoint} (he : e.SupportedBy s.selection) : e.table ≠ name := fun heq =>
      hstays he.mem_names (heq ▸ hname)
    simp [Join.touches, hne (h.joins_sound.left_supported j hj),
      hne (h.joins_sound.right_supported j hj)]
  have hfact : s.fact.name.filter (· ∉ gone) = s.fact.name := by
    cases hname : s.fact.name with
    | none => rfl
    | some name =>
      have hchosen : name ∉ gone := hstays (h.fact_selected name hname)
      rw [Option.filter_some, if_pos (decide_eq_true hchosen)]
  simp only [without, hselection, hjoins, hfact]

/-- **What is available and what is selected** are the tables of the catalog. -/
theorem Consistent.perm_available (h : s.Consistent) :
    (s.available ++ s.selection.tables).Perm s.catalog.tables := by
  have hselected : s.selection.tables.Perm
      (s.catalog.tables.filter fun t => s.selection.contains t.name) := by
    refine (List.perm_ext_iff_of_nodup h.selection_distinct.of_map
      (h.catalog_distinct.of_map.filter _)).2 fun t => ?_
    rw [List.mem_filter, Selection.contains_iff]
    constructor
    · intro ht
      exact ⟨Table.mem_of_named? (h.selection_defined t ht), Table.mem_names_of_mem ht⟩
    · rintro ⟨ht, hname⟩
      -- The selected table of the name is the catalog's, and that is this one.
      obtain ⟨u, hu, he⟩ := Table.mem_names.1 hname
      have hcatalog : u ∈ s.catalog.tables := Table.mem_of_named? (h.selection_defined u hu)
      exact Table.eq_of_name_eq h.catalog_distinct hcatalog ht he ▸ hu
  exact (List.perm_append_comm.trans (hselected.append_right _)).trans
    (List.filter_append_perm _ s.catalog.tables)

/-- **An addition in one word.**  From a reachable session, `addTables` appends to the selection the
tables of the catalog that are named and not selected, in the catalog's order and as the catalog has
them, says how many, and keeps joins and fact table.  It depends on the set of names alone; said
again it adds nothing and leaves the session as it is; and removing the names that were new, in
any order, leads back to the selection, joins and fact table there were.  The available tables are
in the catalog's order, and with the selected ones they are the catalog's tables. -/
theorem model_after_addition (hs : s.Reachable) (names : List String) :
    let added := s.catalog.tables.filter fun t => t.name ∈ names ∧ t.name ∉ s.selection.names
    let turn := s.addTables names
    turn.session.selection.tables = s.selection.tables ++ added ∧
      turn.session.joins = s.joins ∧ turn.session.fact = s.fact ∧ turn.result = added.length ∧
      (∀ others, (∀ name, name ∈ others ↔ name ∈ names) → s.addTables others = turn) ∧
      (turn.session.addTables names).result = 0 ∧
      (turn.session.addTables names).session = turn.session ∧
      (∀ gone, (∀ name, name ∈ gone ↔ name ∈ Table.names added) →
        let back := (turn.session.removeTables gone).session
        back.selection = s.selection ∧ back.joins = s.joins ∧ back.fact = s.fact) ∧
      s.available.Sublist s.catalog.tables ∧
      (s.available ++ s.selection.tables).Perm s.catalog.tables := by
  intro added turn
  have hc : s.Consistent := hs.consistent
  have hturn : turn = _ := hc.addTables_eq names
  have hagain : turn.session.addTables names = turn.session.publish [] 0 := by
    rw [(hc.addTables names).addTables_eq, hc.newTables_addTables, List.append_nil]
    rfl
  refine ⟨congrArg (·.session.selection.tables) hturn, rfl, rfl, congrArg (·.result) hturn,
    fun others h => addTables_congr h, congrArg (·.result) hagain, ?_, fun gone hgone => ?_,
    List.filter_sublist, hc.perm_available⟩
  · rw [hagain]
    rfl
  · have hback : (turn.session.removeTables gone).session = (s.publish [] ()).session := by
      rw [(hc.addTables names).session_removeTables, hc.addTables_eq]
      exact congrArg (fun u => (u.publish [] ()).session) (hc.without_new hgone)
    rw [hback]
    exact ⟨rfl, rfl, rfl⟩

/-- Orders are asked for twice, among tables that are selected or are not there, when customers are
selected: they come second, though they are first in the catalog, and are taken out again alone. -/
theorem model_after_addition_orders :
    let s := (start "first" shop .flat none).after [
      .requestTables, .applyTables ⟨1, "shop", .ok shopTables⟩, .addTables ["customers"]]
    let names := ["orders", "suppliers", "customers", "orders"]
    let turn := s.addTables names
    s.Reachable ∧
      turn.session.selection.names = ["customers", "orders"] ∧ turn.result = 1 ∧
      (∀ name, name ∈ ["customers", "orders", "suppliers"] ↔ name ∈ names) ∧
      s.addTables ["customers", "orders", "suppliers"] = turn ∧
      (turn.session.removeTables ["orders", "orders"]).session.selection = s.selection := by
  intro s names turn
  have hreachable : s.Reachable := ⟨_, _, _, _, _, rfl⟩
  have hadded : s.catalog.tables.filter (fun t => t.name ∈ names ∧ t.name ∉ s.selection.names) =
      [⟨"orders", some "shop", [⟨"customer", none⟩]⟩] := by decide
  have hset : ∀ name, name ∈ ["customers", "orders", "suppliers"] ↔ name ∈ names := by
    intro name
    simp only [names, List.mem_cons, List.not_mem_nil, or_false]
    tauto
  obtain ⟨htables, -, -, hcount, hothers, -, -, hback, -⟩ := model_after_addition hreachable names
  rw [hadded] at htables hcount hback
  refine ⟨hreachable, ?_, hcount, hset, hothers _ hset, (hback _ ?_).1⟩
  · exact congrArg (List.map Table.name) htables
  · simp [Table.names]

end Session
end JoinWizard
