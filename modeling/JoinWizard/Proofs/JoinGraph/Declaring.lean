/-
# Declaring joins and taking them back

A join may have several faults over a graph and a selection.  Listed in the order in which they are
looked for (`Join.faults`), the first of them is the one a refusal reports, and a join is declared
exactly if there is none (`JoinGraph.add_eq`):

| place | fault | reported as |
| --- | --- | --- |
| left end | its table is not selected, or has no such field | `tableNotSelected`, `fieldUnknown` |
| right end | the same | the same |
| both ends | they are on one table | `selfJoin` |
| graph | it has the join or its reverse | `alreadyDeclared` |

The selection need not fit the graph.  A join that is declared is the last one and the only one of
its edge, so taking it back, in either order, restores the graph as it was.
-/

import JoinWizard.Session.Edit
import JoinWizard.Proofs.JoinGraph

namespace JoinWizard

namespace Endpoint

variable {e : Endpoint} {s : Selection}

/-- The selected table of the endpoint's name has a field of the endpoint's name. -/
def IsSelectedField (e : Endpoint) (s : Selection) : Prop :=
  ∃ t ∈ s.find? e.table, ∃ f ∈ t.fields, f.name = e.field

instance (e : Endpoint) (s : Selection) : Decidable (e.IsSelectedField s) :=
  inferInstanceAs (Decidable (∃ t ∈ s.find? e.table, _))

/-- What is wrong with an endpoint over a selection: at most one thing. -/
def faults (e : Endpoint) (s : Selection) : List JoinError :=
  if e.table ∉ s.names then [.tableNotSelected e]
  else if e.IsSelectedField s then [] else [.fieldUnknown e]

theorem isSupported_iff_isSelectedField : e.isSupported s = true ↔ e.IsSelectedField s := by
  rw [isSupported, Option.any_eq_true]
  exact exists_congr fun t => and_congr_right fun _ => Table.hasField_iff

/-- **An endpoint is checked by looking for its fault.** -/
theorem check_eq (e : Endpoint) (s : Selection) :
    e.check s = match (e.faults s).head? with
      | some error => .error error
      | none => .ok () := by
  unfold check faults
  cases hf : s.find? e.table with
  | none => rw [if_pos (Selection.find?_eq_none_iff.1 hf)]; rfl
  | some t =>
    have hselected : ¬e.table ∉ s.names := fun hno => by
      rw [Selection.find?_eq_none_iff.2 hno] at hf
      cases hf
    have hfield : e.IsSelectedField s ↔ t.hasField e.field = true := by
      rw [IsSelectedField, hf, Table.hasField_iff]
      exact ⟨fun ⟨u, hu, h⟩ => Option.some.inj hu ▸ h, fun h => ⟨t, rfl, h⟩⟩
    rw [if_neg hselected]
    simp only [hfield]
    cases t.hasField e.field <;> rfl

end Endpoint

namespace Join

/-- What is wrong with a join over a graph and a selection, in the order in which it is looked
for. -/
def faults (j : Join) (g : JoinGraph) (s : Selection) : List JoinError :=
  j.left.faults s ++ j.right.faults s ++
    (if j.left.table = j.right.table then [.selfJoin j.left.table] else []) ++
    if ∃ e ∈ g.joins, e = j ∨ e = j.reverse then [.alreadyDeclared j] else []

end Join

namespace JoinGraph

variable {g g' : JoinGraph} {j k : Join} {s : Selection}

theorem contains_iff : g.contains j = true ↔ ∃ e ∈ g.joins, e = j ∨ e = j.reverse := by
  rw [contains, List.any_eq_true]
  exact exists_congr fun e => and_congr_right fun _ => Join.sameEdge_iff

/-- **A join is declared exactly if it has no fault,** and else refused for the first one. -/
theorem add_eq (g : JoinGraph) (j : Join) (s : Selection) :
    g.add j s = match (j.faults g s).head? with
      | some error => .error error
      | none => .ok ⟨g.joins ++ [j]⟩ := by
  unfold add Join.faults
  rw [Endpoint.check_eq, Endpoint.check_eq]
  cases j.left.faults s with
  | cons error _ => rfl
  | nil =>
    cases j.right.faults s with
    | cons error _ => rfl
    | nil =>
      by_cases hself : j.left.table = j.right.table
      · simp [hself, bind, Except.bind, throw, throwThe, MonadExceptOf.throw]
      · by_cases hold : g.contains j = true
        · simp [hself, hold, contains_iff.1 hold, bind, Except.bind, throw, throwThe,
            MonadExceptOf.throw]
        · have hnew : ¬∃ e ∈ g.joins, e = j ∨ e = j.reverse := fun h => hold (contains_iff.2 h)
          simp [hself, hold, hnew, bind, Except.bind, pure, Except.pure]

/-- A join is refused for its first fault. -/
theorem add_eq_error_iff {error : JoinError} :
    g.add j s = .error error ↔ (j.faults g s).head? = some error := by
  rw [add_eq]
  cases (j.faults g s).head? <;> simp

/-! ## Taking back -/

/-- Where no join of the edge is declared, none goes. -/
theorem remove_eq_self (h : g.contains k = false) : g.remove k = g := by
  refine congrArg JoinGraph.mk (List.filter_eq_self.2 fun e he => ?_)
  rw [Join.sameEdge_eq_false_iff.2 (contains_eq_false_iff.1 h e he)]
  rfl

/-- The last join of a graph goes alone, if no other one is of its edge. -/
theorem remove_append (h : g.contains j = false) (hk : j.sameEdge k = true) :
    remove ⟨g.joins ++ [j]⟩ k = g := by
  have hrest : g.remove k = g := remove_eq_self (contains_congr hk ▸ h)
  refine congrArg JoinGraph.mk ?_
  rw [List.filter_append, List.filter_singleton, hk]
  exact (List.append_nil _).trans (congrArg JoinGraph.joins hrest)

/-- **A join is taken back exactly if the graph contains it:** then, and only then, the graph gets
shorter. -/
theorem fst_takeBack (g : JoinGraph) (k : Join) : (g.takeBack k).1 = g.contains k := by
  rw [Bool.eq_iff_iff, takeBack, decide_eq_true_iff, size, size, remove, ne_eq,
    List.length_filter_eq_length_iff, contains, List.any_eq_true]
  simp

end JoinGraph

namespace Session

variable {u : Session} {j : Join}

/-- A session reports whether the join was taken back, and keeps the graph that is left. -/
theorem removeJoin_takeBack (u : Session) (j : Join) :
    (u.removeJoin j).result = (u.joins.takeBack j).1 ∧
      (u.removeJoin j).session.joins = (u.joins.takeBack j).2 := by
  rw [JoinGraph.fst_takeBack]
  unfold removeJoin
  cases hc : u.joins.contains j with
  | true => exact ⟨rfl, rfl⟩
  | false => exact ⟨rfl, (JoinGraph.remove_eq_self hc).symm⟩

/-- A session is left as it is by a join that is refused. -/
theorem addJoin_of_error {error : JoinError} (h : u.joins.add j u.selection = .error error) :
    u.addJoin j = u.silently (.error error) := by
  rw [addJoin, h]

end Session

namespace JoinGraph

/-- **Declaring a join and taking it back.**  Over any graph and any selection, a join is declared
exactly if each end is a field of the selected table of its name, the tables differ, and no join of
the graph is it or its reverse; it is then the last one.  Otherwise its first fault is reported, and
the session stays as it is.  A join that was declared is contained in either order, and taking it
back in either order says so and restores the graph; taking back a join that is not contained says
so and changes nothing.  A session reports and keeps the same. -/
theorem declared_and_taken_back (g : JoinGraph) (s : Selection) (j : Join) :
    (∀ g', g.add j s = .ok g' ↔
      (j.left.IsSelectedField s ∧ j.right.IsSelectedField s ∧ j.left.table ≠ j.right.table ∧
        ∀ e ∈ g.joins, e ≠ j ∧ e ≠ j.reverse) ∧ g' = ⟨g.joins ++ [j]⟩) ∧
      (∀ error, g.add j s = .error error ↔ (j.faults g s).head? = some error) ∧
      (∀ g', g.add j s = .ok g' → ∀ k, k = j ∨ k = j.reverse →
        g'.contains k = true ∧ g'.takeBack k = (true, g)) ∧
      (∀ k, g.contains k = false → g.takeBack k = (false, g)) ∧
      ∀ u : Session, u.joins = g → u.selection = s →
        (∀ error, g.add j s = .error error → (u.addJoin j).session = u) ∧
        ∀ k, (u.removeJoin k).result = (g.takeBack k).1 ∧
          (u.removeJoin k).session.joins = (g.takeBack k).2 := by
  refine ⟨fun g' => ?_, fun error => add_eq_error_iff, fun g' hadd k hk => ?_, fun k hk => ?_, ?_⟩
  · rw [add_eq_ok_iff, Endpoint.isSupported_iff_isSelectedField,
      Endpoint.isSupported_iff_isSelectedField, contains_eq_false_iff, and_assoc, and_assoc,
      and_assoc]
  · obtain ⟨-, -, -, hnew, rfl⟩ := add_eq_ok_iff.1 hadd
    have hedge : j.sameEdge k = true := by
      rw [Join.sameEdge_comm, Join.sameEdge_iff]
      exact hk
    have hcontains : contains ⟨g.joins ++ [j]⟩ k = true := by
      rw [contains_append, Join.sameEdge_comm k, hedge, Bool.or_true]
    exact ⟨hcontains, Prod.ext ((fst_takeBack ..).trans hcontains) (remove_append hnew hedge)⟩
  · exact Prod.ext ((fst_takeBack ..).trans hk) (remove_eq_self hk)
  · rintro u rfl rfl
    refine ⟨fun error h => ?_, fun k => Session.removeJoin_takeBack u k⟩
    rw [Session.addJoin_of_error h]
    rfl

/-- A join of a table that has no fields with itself has three faults. -/
example : (⟨⟨"orders", "id"⟩, ⟨"orders", "key"⟩⟩ : Join).faults {} ⟨[⟨"orders", none, []⟩]⟩ =
    [.fieldUnknown ⟨"orders", "id"⟩, .fieldUnknown ⟨"orders", "key"⟩, .selfJoin "orders"] := by
  decide

end JoinGraph
end JoinWizard
