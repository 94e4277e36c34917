/-
# Deselecting tables

A deselection takes tables out of the selection one by one, and then, if it took any, drops the
joins whose tables are not selected any more and a fact table that is not.  What comes of it can be
said at once (`Session.without`): tables, joins and the fact table are left out that have to do with
a name that was given.

The two agree because the model is consistent.  With one table of a name, taking out the first one
takes out all of them; as both tables of every join were selected, a join has lost a table exactly
if it touches a name that was given; and where nothing was taken, nothing had to be dropped.

A filter asks only whether a name is among those given, so their order and number do not matter, nor
whether they are given at once or one after the other (`Session.model_after_removal`).
-/

import JoinWizard.Proofs.Session.Commit

namespace JoinWizard
namespace Session

variable {s : Session}

/-- The session without some tables: without what is selected under their names, the joins that
touch them, and a fact table among them. -/
def without (s : Session) (names : List String) : Session :=
  { s with
    selection := ⟨s.selection.tables.filter (·.name ∉ names)⟩
    joins := ⟨s.joins.joins.filter fun j => ∀ name ∈ names, j.touches name = false⟩
    fact := ⟨s.fact.name.filter (· ∉ names)⟩ }

/-- Only the set of names matters. -/
theorem without_congr {names others : List String} (h : ∀ name, name ∈ others ↔ name ∈ names) :
    s.without others = s.without names := by
  simp only [without, h]

/-- Leaving out some tables and then others is leaving out all of them. -/
theorem without_without (s : Session) (names more : List String) :
    (s.without names).without more = s.without (names ++ more) := by
  have hnamed (name : String) :
      decide (name ∉ names ++ more) = (decide (name ∉ names) && decide (name ∉ more)) := by
    rw [← Bool.decide_and]
    exact decide_eq_decide.2 (by rw [List.mem_append, not_or])
  have htouched (j : Join) : decide (∀ name ∈ names ++ more, j.touches name = false) =
      (decide (∀ name ∈ names, j.touches name = false) &&
        decide (∀ name ∈ more, j.touches name = false)) := by
    rw [← Bool.decide_and]
    exact decide_eq_decide.2 List.forall_mem_append
  simp only [without, hnamed, htouched, List.filter_filter, Option.filter_filter, Bool.and_comm]

/-- A deselection is a change of the model, also where it changes nothing. -/
theorem Consistent.removeTables_eq (h : s.Consistent) (names : List String) :
    s.removeTables names =
      { s with
        selection := (s.selection.remove names).2
        joins := (s.joins.cascade (s.selection.remove names).2).2
        fact := s.fact.revalidate (s.selection.remove names).2 }.publish []
          (s.selection.remove names).1 := by
  unfold Session.removeTables
  split
  · next rest hr =>
    have hsame : (s.selection.remove names).2 = s.selection :=
      Selection.remove_eq_self (congrArg Prod.fst hr)
    rw [hsame, h.joins_sound.cascade_eq, FactTable.revalidate_eq_self h.fact_selected, hr]
  · next hr => rw [hr]

/-- **A deselection leaves the session without the tables that are named.** -/
theorem Consistent.session_removeTables (h : s.Consistent) (names : List String) :
    (s.removeTables names).session = ((s.without names).publish [] ()).session := by
  have hstays : ∀ name, name ∈ (s.selection.remove names).2.names ↔
      name ∈ s.selection.names ∧ name ∉ names :=
    fun _ => Selection.mem_names_remove h.selection_distinct
  have hselection : (s.selection.remove names).2 = (s.without names).selection :=
    congrArg Selection.mk (Selection.tables_remove h.selection_distinct names)
  have hjoins : (s.joins.cascade (s.selection.remove names).2).2 = (s.without names).joins :=
    congrArg JoinGraph.mk (h.joins_sound.joins_cascade hstays)
  have hfact : s.fact.revalidate (s.selection.remove names).2 = (s.without names).fact := by
    refine congrArg FactTable.mk ((FactTable.name_revalidate ..).trans ?_)
    cases hname : s.fact.name with
    | none => rfl
    | some name =>
      have hchosen : name ∈ s.selection.names := h.fact_selected name hname
      simp only [Option.filter_some, hstays, hchosen, true_and]
  rw [h.removeTables_eq, hjoins, hfact, hselection]
  rfl

/-- **A deselection in one word.**  From a reachable session, `removeTables` gives back the selected
tables that are named, once each, in the order in which they are named first.  The selection keeps
the others, the joins are those that touch no name, and the fact table is cleared if it is named;
catalog and refresh stay.  The session that is left depends on the set of names alone, so names may
be given at once or in two parts, and the parts in either order. -/
theorem model_after_removal (hs : s.Reachable) (names : List String) :
    let turn := s.removeTables names
    turn.result = names.eraseDups.filterMap s.selection.find? ∧
      turn.session.selection.tables = s.selection.tables.filter (·.name ∉ names) ∧
      turn.session.joins.joins =
        s.joins.joins.filter (fun j => ∀ name ∈ names, j.touches name = false) ∧
      turn.session.fact.name = s.fact.name.filter (· ∉ names) ∧
      turn.session.catalog = s.catalog ∧ turn.session.refresh = s.refresh ∧
      (∀ others, (∀ name, name ∈ others ↔ name ∈ names) →
        (s.removeTables others).session = turn.session) ∧
      ∀ more, let atOnce := (s.removeTables (names ++ more)).session
        (turn.session.removeTables more).session = atOnce ∧
          ((s.removeTables more).session.removeTables names).session = atOnce := by
  intro turn
  have hc : s.Consistent := hs.consistent
  have hsession : turn.session = ((s.without names).publish [] ()).session :=
    hc.session_removeTables names
  have hresult : turn.result = names.eraseDups.filterMap s.selection.find? := by
    show (s.removeTables names).result = _
    rw [hc.removeTables_eq]
    exact Selection.removed_eq hc.selection_distinct names
  have hset {first second : List String} (h : ∀ name, name ∈ first ↔ name ∈ second) :
      (s.removeTables first).session = (s.removeTables second).session := by
    rw [hc.session_removeTables, hc.session_removeTables, without_congr h]
  have htwice (first second : List String) :
      ((s.removeTables first).session.removeTables second).session =
        (s.removeTables (first ++ second)).session := by
    rw [(hc.removeTables first).session_removeTables, hc.session_removeTables,
      hc.session_removeTables, ← without_without]
    rfl
  refine ⟨hresult, congrArg (·.selection.tables) hsession, congrArg (·.joins.joins) hsession,
    congrArg (·.fact.name) hsession, ?_, ?_, fun others h => hset h,
    fun more => ⟨htwice names more, ?_⟩⟩
  · rw [hsession]
    rfl
  · rw [hsession]
    rfl
  · rw [htwice]
    exact hset fun name => by rw [List.mem_append, List.mem_append, or_comm]

/-- Customers are deselected, named twice among tables that are not there, and with them goes the
join. -/
theorem model_after_removal_shop :
    let turn := shopSession.removeTables ["customers", "suppliers", "customers"]
    shopSession.Reachable ∧
      shopSession.joins.joins = [⟨⟨"orders", "customer"⟩, ⟨"customers", "id"⟩⟩] ∧
      turn.result = [⟨"customers", some "shop", [⟨"id", none⟩]⟩] ∧
      turn.session.selection.tables = [⟨"orders", some "shop", [⟨"customer", none⟩]⟩] ∧
      turn.session.joins.joins = [] ∧
      (∀ name, name ∈ ["suppliers", "customers"] ↔
        name ∈ ["customers", "suppliers", "customers"]) ∧
      (shopSession.removeTables ["suppliers", "customers"]).session = turn.session := by
  intro turn
  have hset : ∀ name, name ∈ ["suppliers", "customers"] ↔
      name ∈ ["customers", "suppliers", "customers"] := by
    intro name
    simp [or_comm]
  obtain ⟨hresult, hselection, hjoins, -, -, -, hothers, -⟩ :=
    model_after_removal reachable_shopSession ["customers", "suppliers", "customers"]
  refine ⟨reachable_shopSession, rfl, hresult.trans ?_, hselection.trans rfl, hjoins.trans ?_,
    hset, hothers _ hset⟩
  · decide
  · decide

end Session
end JoinWizard
