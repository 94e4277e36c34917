/-
# The two cascades

Both cascades part the joins of a graph by a condition: those that fail it go, the others stay, and
each keeps its place (`JoinGraph.PartedBy`).  `cascade` asks whether both tables of a join are
selected, `cascadeFields` whether both ends pass the check that a declaration makes.

The second condition implies the first, so `cascadeFields` never takes less.  It takes more only
where a table that is selected has lost a field.  A deselection loses no field: what is left of a
selection keeps its definitions.  So for a graph that passed the checks of a selection, the two are
one after any deselection, and the shorter look is enough (`cascades_exact`).
-/

import JoinWizard.Proofs.JoinGraph
import JoinWizard.Proofs.Selection.History

namespace JoinWizard

namespace Selection

variable {s : Selection} {e : Edit} {history : List Edit}

/-- A change that adds nothing leaves a part of the selection, in its order and with its
definitions. -/
theorem tables_edit_sublist (hs : s.names.Nodup) (h : ∀ tables, e ≠ .add tables) :
    (s.edit e).tables.Sublist s.tables := by
  cases e with
  | add tables => exact absurd rfl (h tables)
  | remove names => exact remove_sublist hs names
  | retain keep => exact List.filter_sublist
  | clear => exact List.nil_sublist _

/-- **Changes that add nothing** leave a part of the selection. -/
theorem tables_after_sublist (hs : s.names.Nodup) (h : ∀ tables, Edit.add tables ∉ history) :
    (s.after history).tables.Sublist s.tables := by
  induction history generalizing s with
  | nil => exact .refl _
  | cons e history ih =>
    have hstep : (s.edit e).tables.Sublist s.tables := by
      refine tables_edit_sublist hs fun tables he => h tables ?_
      exact he ▸ List.mem_cons_self
    have hdistinct : (s.edit e).names.Nodup := hs.sublist (Table.names_sublist hstep)
    exact (ih hdistinct fun tables hmem => h tables (List.mem_cons_of_mem _ hmem)).trans hstep

end Selection

namespace Join

/-- Both ends of the join pass the check of a declaration. -/
def PassesChecks (j : Join) (s : Selection) : Prop :=
  j.left.check s = .ok () ∧ j.right.check s = .ok ()

variable {j : Join} {s : Selection}

theorem passesChecks_iff :
    j.PassesChecks s ↔ (j.left.isSupported s && j.right.isSupported s) = true := by
  rw [Bool.and_eq_true, ← Endpoint.check_eq_ok_iff, ← Endpoint.check_eq_ok_iff]
  rfl

/-- The ends of such a join are fields of selected tables. -/
theorem PassesChecks.supported (h : j.PassesChecks s) :
    j.left.SupportedBy s ∧ j.right.SupportedBy s := by
  rw [passesChecks_iff, Bool.and_eq_true] at h
  exact ⟨Endpoint.supportedBy_of_isSupported h.1, Endpoint.supportedBy_of_isSupported h.2⟩

end Join

namespace JoinGraph

variable {g : JoinGraph} {keep keep' : Join → Bool} {stays : Join → Prop}

/-- The joins of a graph, parted by a condition into those that go and the graph that is left: none
is lost, none comes twice, none changes its place. -/
structure PartedBy (g : JoinGraph) (stays : Join → Prop) (parts : List Join × JoinGraph) :
    Prop where
  perm : (parts.1 ++ parts.2.joins).Perm g.joins
  gone_sublist : parts.1.Sublist g.joins
  left_sublist : parts.2.joins.Sublist g.joins
  gone : ∀ j ∈ parts.1, ¬stays j
  left : ∀ j ∈ parts.2.joins, stays j

theorem partedBy_retain (h : ∀ j, keep j = true ↔ stays j) : g.PartedBy stays (g.retain keep) where
  perm := List.perm_append_comm.trans (List.filter_append_perm keep g.joins)
  gone_sublist := List.filter_sublist
  left_sublist := List.filter_sublist
  gone j hj := by
    have hno : keep j = false := by simpa using (List.mem_filter.1 hj).2
    rw [← h, hno]
    exact Bool.false_ne_true
  left j hj := (h j).1 (List.mem_filter.1 hj).2

/-- What was kept once is kept again. -/
theorem retain_retain (g : JoinGraph) (keep : Join → Bool) :
    (g.retain keep).2.retain keep = ([], (g.retain keep).2) := by
  refine Prod.ext (List.filter_eq_nil_iff.2 fun j hj => ?_) (congrArg JoinGraph.mk ?_)
  · simpa using (List.mem_filter.1 hj).2
  · exact List.filter_eq_self.2 fun j hj => (List.mem_filter.1 hj).2

/-- A stricter condition takes more. -/
theorem fst_retain_sublist (g : JoinGraph) (h : ∀ j, keep' j = true → keep j = true) :
    (g.retain keep).1.Sublist (g.retain keep').1 := by
  refine List.monotone_filter_right g.joins fun j hj => ?_
  rw [Bool.not_eq_true', ← Bool.not_eq_true] at hj ⊢
  exact fun hj' => hj (h j hj')

theorem partedBy_cascade (g : JoinGraph) (s : Selection) :
    g.PartedBy (fun j => j.left.table ∈ s.names ∧ j.right.table ∈ s.names) (g.cascade s) :=
  partedBy_retain fun j => by
    rw [Bool.and_eq_true, Selection.contains_iff, Selection.contains_iff]

theorem partedBy_cascadeFields (g : JoinGraph) (s : Selection) :
    g.PartedBy (·.PassesChecks s) (g.cascadeFields s) :=
  partedBy_retain fun _ => Join.passesChecks_iff.symm

/-- **The two cascades are exact, and after a deselection they agree.**  If all joins of a graph
pass the checks of a selection, whose names are distinct as a selection's names are, then after any
changes of the selection that add nothing both cascades take the same joins in the same order and
leave the same graph.  Of any graph, over any
selection, `cascade` leaves the joins whose tables are both selected and `cascadeFields` those that
pass the checks; both lose no join, double none and keep the order; what `cascade` takes,
`cascadeFields` takes too; and neither takes anything when it is run again. -/
theorem cascades_exact (g : JoinGraph) (s : Selection) :
    (s.names.Nodup → (∀ j ∈ g.joins, j.PassesChecks s) →
        ∀ history, (∀ tables, Selection.Edit.add tables ∉ history) →
          g.cascade (s.after history) = g.cascadeFields (s.after history)) ∧
      g.PartedBy (fun j => j.left.table ∈ s.names ∧ j.right.table ∈ s.names) (g.cascade s) ∧
      g.PartedBy (·.PassesChecks s) (g.cascadeFields s) ∧
      (g.cascade s).1.Sublist (g.cascadeFields s).1 ∧
      (g.cascade s).2.cascade s = ([], (g.cascade s).2) ∧
      (g.cascadeFields s).2.cascadeFields s = ([], (g.cascadeFields s).2) := by
  refine ⟨fun hs hchecks history hnone => ?_, partedBy_cascade g s, partedBy_cascadeFields g s, ?_,
    retain_retain .., retain_retain ..⟩
  · exact cascade_eq_cascadeFields (fun j hj => (hchecks j hj).supported) hs
      (Selection.tables_after_sublist hs hnone)
  · refine fst_retain_sublist g fun j hj => ?_
    obtain ⟨hl, hr⟩ := (Join.passesChecks_iff.2 hj).supported
    rw [Bool.and_eq_true, Selection.contains_iff, Selection.contains_iff]
    exact ⟨hl.mem_names, hr.mem_names⟩

/-- Customers are deselected, once by name and once by a condition; the join with orders goes, and
either cascade takes it. -/
theorem cascades_exact_customers :
    let g : JoinGraph := ⟨[⟨⟨"orders", "customer"⟩, ⟨"customers", "id"⟩⟩]⟩
    let s : Selection :=
      ⟨[⟨"orders", none, [⟨"customer", none⟩]⟩, ⟨"customers", none, [⟨"id", none⟩]⟩]⟩
    let history := [.remove ["customers", "customers"], .retain fun t => t.name ≠ "customers"]
    s.names.Nodup ∧ (∀ j ∈ g.joins, j.PassesChecks s) ∧
      (∀ tables, Selection.Edit.add tables ∉ history) ∧
      g.cascade (s.after history) = (g.joins, {}) ∧
      g.cascadeFields (s.after history) = (g.joins, {}) := by
  intro g s history
  have hdistinct : s.names.Nodup := by decide
  have hchecks : ∀ j ∈ g.joins, j.PassesChecks s := by
    intro j hj
    obtain rfl := List.mem_singleton.1 hj
    exact ⟨rfl, rfl⟩
  have hnone : ∀ tables, Selection.Edit.add tables ∉ history := by simp [history]
  have hcascade : g.cascade (s.after history) = (g.joins, {}) := by decide
  exact ⟨hdistinct, hchecks, hnone, hcascade,
    ((cascades_exact g s).1 hdistinct hchecks history hnone).symm.trans hcascade⟩

end JoinGraph
end JoinWizard
