/-
# Sound join graphs

A graph is *sound* over a selection (`JoinGraph.Sound`) if each of its joins pairs fields of two
different selected tables and no edge is declared twice.  Declaring a join keeps that
(`Sound.add`), taking joins away keeps it (`Sound.sublist`), and after the selection has changed
one of the two cascades restores it: `cascadeFields` always (`Sound.cascadeFields`), and `cascade`
when tables were only deselected (`Sound.cascade`), for then the two are one
(`cascade_eq_cascadeFields`).

In the other direction, the joins of a sound graph are all accepted again, one after the other, by
a graph that starts empty (`Sound.addAll_eq`).  Of joins of any kind, those are accepted that the
selection admits and that are the first of their edge (`joins_addAll`); since an edge is admitted in
both orders or in none, it does not matter which of its joins were accepted before.
-/

import JoinWizard.JoinGraph
import JoinWizard.Proofs.Join.Edge
import JoinWizard.Proofs.Selection

namespace JoinWizard

theorem Table.hasField_iff {t : Table} {name : String} :
    t.hasField name = true ↔ ∃ f ∈ t.fields, f.name = name := by
  simp [hasField, field?]

namespace Endpoint

variable {e : Endpoint} {s rest : Selection}

/-- The endpoint is a field of a selected table. -/
def SupportedBy (e : Endpoint) (s : Selection) : Prop :=
  ∃ t ∈ s.tables, t.name = e.table ∧ ∃ f ∈ t.fields, f.name = e.field

instance (e : Endpoint) (s : Selection) : Decidable (e.SupportedBy s) :=
  inferInstanceAs (Decidable (∃ t ∈ s.tables, _))

theorem SupportedBy.mem_names (h : e.SupportedBy s) : e.table ∈ s.names := by
  obtain ⟨t, ht, hn, -⟩ := h
  exact Table.mem_names.2 ⟨t, ht, hn⟩

theorem supportedBy_of_isSupported (h : e.isSupported s = true) : e.SupportedBy s := by
  obtain ⟨t, ht, hf⟩ := (Option.any_eq_true ..).1 h
  exact ⟨t, Table.mem_of_named? ht, Table.name_of_named? ht, Table.hasField_iff.1 hf⟩

/-- With one table of a name, the look-up finds the table that supports an endpoint. -/
theorem isSupported_iff (h : s.names.Nodup) : e.isSupported s = true ↔ e.SupportedBy s := by
  refine ⟨supportedBy_of_isSupported, fun ⟨t, ht, hn, hf⟩ => ?_⟩
  rw [isSupported, Selection.find?, ← hn, Table.named?_of_mem h ht]
  exact Table.hasField_iff.2 hf

theorem check_eq_ok_iff : e.check s = .ok () ↔ e.isSupported s = true := by
  unfold check isSupported
  cases s.find? e.table with
  | none => simp
  | some t =>
    cases hf : t.hasField e.field with
    | true => simp [hf]
    | false => simp [hf]

/-- An endpoint stays supported while its table stays selected. -/
theorem SupportedBy.of_sublist (h : e.SupportedBy s) (hs : s.names.Nodup)
    (hsub : rest.tables.Sublist s.tables) (hc : rest.contains e.table = true) :
    e.SupportedBy rest := by
  obtain ⟨t, ht, hn, hf⟩ := h
  obtain ⟨u, hu, hun⟩ := Table.mem_names.1 (Selection.contains_iff.1 hc)
  have : u = t := Table.eq_of_name_eq hs (hsub.subset hu) ht (hun.trans hn.symm)
  exact ⟨u, hu, hun, this ▸ hf⟩

/-- **Over what is left of a selection,** it is enough to ask whether its table is there. -/
theorem SupportedBy.contains_eq_isSupported (h : e.SupportedBy s) (hs : s.names.Nodup)
    (hsub : rest.tables.Sublist s.tables) : rest.contains e.table = e.isSupported rest := by
  have hrest : rest.names.Nodup := hs.sublist (Table.names_sublist hsub)
  rw [Bool.eq_iff_iff, isSupported_iff hrest]
  exact ⟨fun hc => h.of_sublist hs hsub hc, fun hc => Selection.contains_iff.2 hc.mem_names⟩

end Endpoint

namespace Join

variable {j k : Join} {s : Selection}

/-- Both ends of the join are fields of selected tables, and the tables differ. -/
def AdmittedBy (j : Join) (s : Selection) : Prop :=
  j.left.SupportedBy s ∧ j.right.SupportedBy s ∧ j.left.table ≠ j.right.table

instance (j : Join) (s : Selection) : Decidable (j.AdmittedBy s) :=
  inferInstanceAs (Decidable (_ ∧ _ ∧ _))

/-- What a selection admits, it admits the other way round. -/
theorem admittedBy_congr (h : k.sameEdge j = true) : k.AdmittedBy s ↔ j.AdmittedBy s := by
  rcases sameEdge_iff.1 h with rfl | rfl
  · exact Iff.rfl
  · exact ⟨fun ⟨hl, hr, hne⟩ => ⟨hr, hl, hne.symm⟩, fun ⟨hl, hr, hne⟩ => ⟨hr, hl, hne.symm⟩⟩

end Join

namespace JoinGraph

variable {g g' : JoinGraph} {j : Join} {s rest : Selection}

/-- Every join pairs fields of two different selected tables, and no edge is declared twice. -/
structure Sound (g : JoinGraph) (s : Selection) : Prop where
  tables_differ : ∀ j ∈ g.joins, j.left.table ≠ j.right.table
  left_supported : ∀ j ∈ g.joins, j.left.SupportedBy s
  right_supported : ∀ j ∈ g.joins, j.right.SupportedBy s
  edges_distinct : g.joins.Pairwise fun a b => a ≠ b ∧ a ≠ b.reverse

theorem contains_eq_false_iff : g.contains j = false ↔ ∀ e ∈ g.joins, e ≠ j ∧ e ≠ j.reverse := by
  rw [contains, List.any_eq_false]
  exact forall₂_congr fun e _ => by rw [Bool.not_eq_true, Join.sameEdge_eq_false_iff]

/-- **A join is accepted exactly if** both ends are supported, the tables differ and the edge is
new; it is then the last of the graph. -/
theorem add_eq_ok_iff : g.add j s = .ok g' ↔
    j.left.isSupported s = true ∧ j.right.isSupported s = true ∧ j.left.table ≠ j.right.table ∧
      g.contains j = false ∧ g' = ⟨g.joins ++ [j]⟩ := by
  rw [← Endpoint.check_eq_ok_iff, ← Endpoint.check_eq_ok_iff]
  unfold add
  rcases j.left.check s with e | ⟨⟩
  · simp [bind, Except.bind]
  rcases j.right.check s with e | ⟨⟩
  · simp [bind, Except.bind]
  by_cases hd : j.left.table = j.right.table
  · simp [bind, Except.bind, hd, throw, throwThe, MonadExceptOf.throw]
  by_cases hc : g.contains j = true
  · simp [bind, Except.bind, hd, hc, throw, throwThe, MonadExceptOf.throw]
  · rw [Bool.not_eq_true] at hc
    simp [bind, Except.bind, hd, hc, pure, Except.pure, eq_comm]

/-- One edge is declared in either order or in none. -/
theorem contains_congr {k : Join} (h : k.sameEdge j = true) : g.contains k = g.contains j := by
  have hkey : k.edgeKey = j.edgeKey := of_decide_eq_true h
  unfold contains Join.sameEdge
  rw [hkey]

theorem contains_append {k : Join} :
    contains ⟨g.joins ++ [j]⟩ k = (g.contains k || k.sameEdge j) := by
  rw [contains, List.any_append, List.any_cons, List.any_nil, Bool.or_false, Join.sameEdge_comm]
  rfl

/-- Declaring a join appends it if it is admitted and its edge is new, and else does nothing. -/
theorem toOption_add (hs : s.names.Nodup) : (g.add j s).toOption.getD g =
    if j.AdmittedBy s ∧ g.contains j = false then ⟨g.joins ++ [j]⟩ else g := by
  have hiff : (∃ g', g.add j s = .ok g') ↔ j.AdmittedBy s ∧ g.contains j = false := by
    simp only [add_eq_ok_iff, Endpoint.isSupported_iff hs, Join.AdmittedBy]
    exact ⟨fun ⟨_, hl, hr, hd, hc, _⟩ => ⟨⟨hl, hr, hd⟩, hc⟩,
      fun ⟨⟨hl, hr, hd⟩, hc⟩ => ⟨_, hl, hr, hd, hc, rfl⟩⟩
  cases ha : g.add j s with
  | error e =>
    rw [if_neg fun h => ?_]
    · rfl
    · obtain ⟨g', hok⟩ := hiff.2 h
      rw [ha] at hok
      cases hok
  | ok g' =>
    rw [if_pos (hiff.1 ⟨g', ha⟩), (add_eq_ok_iff.1 ha).2.2.2.2]
    rfl

/-- **Declaring joins one after the other** appends those that are admitted and whose edge neither
the graph has nor an earlier one of them is. -/
theorem joins_addAll (hs : s.names.Nodup) (g : JoinGraph) (joins : List Join) :
    (g.addAll joins s).joins =
      g.joins ++ (Join.firstOfEdge joins).filter
        fun j => j.AdmittedBy s ∧ g.contains j = false := by
  induction joins generalizing g with
  | nil => exact (List.append_nil _).symm
  | cons j js ih =>
    rw [addAll, List.foldl_cons, ← addAll, toOption_add hs, ih, Join.firstOfEdge, List.filter_cons,
      List.filter_filter]
    simp only [decide_eq_true_eq]
    split
    · -- The join is declared: from here on its edge is one that the graph has.
      rw [List.append_assoc, List.singleton_append]
      congr 2
      refine List.filter_congr fun k _ => ?_
      rw [contains_append]
      cases k.sameEdge j <;> simp
    · next h =>
      -- The join is refused, and so is every other one of its edge.
      congr 1
      refine List.filter_congr fun k _ => ?_
      cases hk : k.sameEdge j with
      | false => simp
      | true =>
        have hrefused : ¬(k.AdmittedBy s ∧ g.contains k = false) := by
          rwa [Join.admittedBy_congr hk, contains_congr hk]
        rw [decide_eq_false hrefused]
        rfl

/-- Joins that are not admitted may as well be left out. -/
theorem addAll_filter (hs : s.names.Nodup) (g : JoinGraph) {joins : List Join} {p : Join → Bool}
    (hp : ∀ j ∈ joins, j.AdmittedBy s → p j = true) :
    g.addAll (joins.filter p) s = g.addAll joins s := by
  induction joins generalizing g with
  | nil => rfl
  | cons j js ih =>
    obtain ⟨hj, hjs⟩ := List.forall_mem_cons.1 hp
    have hcons (joins : List Join) :
        g.addAll (j :: joins) s = ((g.add j s).toOption.getD g).addAll joins s := rfl
    rw [List.filter_cons, hcons js]
    split
    · rw [hcons, ih _ hjs]
    · next hno =>
      rw [toOption_add hs, if_neg fun h => hno (hj h.1), ih g hjs]

/-- **After any change of the selection** the joins stay whose ends are both fields of selected
tables. -/
theorem joins_cascadeFields (hs : s.names.Nodup) (g : JoinGraph) :
    (g.cascadeFields s).2.joins =
      g.joins.filter fun j => j.left.SupportedBy s ∧ j.right.SupportedBy s := by
  refine List.filter_congr fun j _ => ?_
  rw [Bool.eq_iff_iff, Bool.and_eq_true, decide_eq_true_iff, Endpoint.isSupported_iff hs,
    Endpoint.isSupported_iff hs]

/-- What goes and what stays depends on the condition over the joins of the graph alone. -/
theorem retain_congr {keep keep' : Join → Bool} (h : ∀ j ∈ g.joins, keep j = keep' j) :
    g.retain keep = g.retain keep' :=
  Prod.ext (List.filter_congr fun j hj => congrArg _ (h j hj))
    (congrArg JoinGraph.mk (List.filter_congr h))

/-- **Over what a deselection leaves,** both cascades take the same joins and leave the same
graph. -/
theorem cascade_eq_cascadeFields
    (h : ∀ j ∈ g.joins, j.left.SupportedBy s ∧ j.right.SupportedBy s) (hs : s.names.Nodup)
    (hsub : rest.tables.Sublist s.tables) : g.cascade rest = g.cascadeFields rest := by
  refine retain_congr fun j hj => ?_
  rw [(h j hj).1.contains_eq_isSupported hs hsub, (h j hj).2.contains_eq_isSupported hs hsub]

theorem sound_empty (s : Selection) : ({} : JoinGraph).Sound s where
  tables_differ _ h := absurd h List.not_mem_nil
  left_supported _ h := absurd h List.not_mem_nil
  right_supported _ h := absurd h List.not_mem_nil
  edges_distinct := .nil

namespace Sound

/-- **Declaring a join keeps a graph sound.** -/
theorem add (h : g.Sound s) (ok : g.add j s = .ok g') : g'.Sound s := by
  obtain ⟨hl, hr, hd, hc, rfl⟩ := add_eq_ok_iff.1 ok
  have hmem (P : Join → Prop) (hg : ∀ e ∈ g.joins, P e) (hj : P j) : ∀ e ∈ g.joins ++ [j], P e := by
    intro e he
    rcases List.mem_append.1 he with he | he
    · exact hg e he
    · exact List.mem_singleton.1 he ▸ hj
  refine ⟨hmem _ h.tables_differ hd, hmem _ h.left_supported ?_, hmem _ h.right_supported ?_, ?_⟩
  · exact Endpoint.supportedBy_of_isSupported hl
  · exact Endpoint.supportedBy_of_isSupported hr
  · refine List.pairwise_append.2
      ⟨h.edges_distinct, List.pairwise_singleton .., fun e he k hk => ?_⟩
    exact List.mem_singleton.1 hk ▸ contains_eq_false_iff.1 hc e he

/-- So does declaring several, whichever of them are refused. -/
theorem addAll (h : g.Sound s) (joins : List Join) : (g.addAll joins s).Sound s := by
  induction joins generalizing g with
  | nil => exact h
  | cons j js ih =>
    rw [JoinGraph.addAll, List.foldl_cons, ← JoinGraph.addAll]
    cases ha : g.add j s with
    | error e => exact ih h
    | ok g' => exact ih (h.add ha)

/-- A graph stays sound when more tables are selected. -/
theorem mono {s' : Selection} (h : g.Sound s) (hsub : s.tables ⊆ s'.tables) : g.Sound s' where
  tables_differ := h.tables_differ
  left_supported j hj := (h.left_supported j hj).imp fun _ ⟨ht, hf⟩ => ⟨hsub ht, hf⟩
  right_supported j hj := (h.right_supported j hj).imp fun _ ⟨ht, hf⟩ => ⟨hsub ht, hf⟩
  edges_distinct := h.edges_distinct

/-- A graph with fewer joins, in their order, stays sound. -/
theorem sublist (h : g.Sound s) (hsub : g'.joins.Sublist g.joins) : g'.Sound s where
  tables_differ j hj := h.tables_differ j (hsub.subset hj)
  left_supported j hj := h.left_supported j (hsub.subset hj)
  right_supported j hj := h.right_supported j (hsub.subset hj)
  edges_distinct := h.edges_distinct.sublist hsub

/-- The joins that stay then are those that touch none of the names that are gone. -/
theorem joins_cascade (h : g.Sound s) {names : List String}
    (hrest : ∀ name, name ∈ rest.names ↔ name ∈ s.names ∧ name ∉ names) :
    (g.cascade rest).2.joins = g.joins.filter fun j => ∀ name ∈ names, j.touches name = false := by
  have hstays {e : Endpoint} (he : e.SupportedBy s) :
      rest.contains e.table = true ↔ e.table ∉ names := by
    rw [Selection.contains_iff, hrest]
    exact and_iff_right he.mem_names
  refine List.filter_congr fun j hj => ?_
  rw [Bool.eq_iff_iff, Bool.and_eq_true, decide_eq_true_iff, hstays (h.left_supported j hj),
    hstays (h.right_supported j hj)]
  constructor
  · rintro ⟨hl, hr⟩ name hname
    have hl' : j.left.table ≠ name := fun he => hl (he ▸ hname)
    have hr' : j.right.table ≠ name := fun he => hr (he ▸ hname)
    simp [Join.touches, hl', hr']
  · intro hnone
    refine ⟨fun hl => ?_, fun hr => ?_⟩
    · simpa [Join.touches] using hnone _ hl
    · simpa [Join.touches] using hnone _ hr

/-- Over the selection it is sound for, no join has lost a table. -/
theorem cascade_eq (h : g.Sound s) : (g.cascade s).2 = g := by
  refine congrArg JoinGraph.mk (List.filter_eq_self.2 fun j hj => ?_)
  rw [Selection.contains_iff.2 (h.left_supported j hj).mem_names,
    Selection.contains_iff.2 (h.right_supported j hj).mem_names]
  rfl

/-- **After any change of the selection** the graph is sound again once the joins are dropped that
have an end which is no field of a selected table. -/
theorem cascadeFields (h : g.Sound s) (rest : Selection) : (g.cascadeFields rest).2.Sound rest := by
  have hkept {j : Join} (hj : j ∈ (g.cascadeFields rest).2.joins) : j ∈ g.joins ∧
      j.left.isSupported rest = true ∧ j.right.isSupported rest = true := by
    simpa [JoinGraph.cascadeFields, retain] using hj
  exact ⟨fun j hj => h.tables_differ j (hkept hj).1,
    fun j hj => Endpoint.supportedBy_of_isSupported (hkept hj).2.1,
    fun j hj => Endpoint.supportedBy_of_isSupported (hkept hj).2.2,
    h.edges_distinct.sublist List.filter_sublist⟩

/-- **After a deselection** it is enough to drop the joins whose tables are gone. -/
theorem cascade (h : g.Sound s) (hs : s.names.Nodup) (hsub : rest.tables.Sublist s.tables) :
    (g.cascade rest).2.Sound rest := by
  have hsupported : ∀ j ∈ g.joins, j.left.SupportedBy s ∧ j.right.SupportedBy s := fun j hj =>
    ⟨h.left_supported j hj, h.right_supported j hj⟩
  rw [cascade_eq_cascadeFields hsupported hs hsub]
  exact h.cascadeFields rest

/-- Over the selection it is sound for, no join is dropped. -/
theorem cascadeFields_eq (h : g.Sound s) (hs : s.names.Nodup) : (g.cascadeFields s).2 = g := by
  have hkept : g.joins.filter (fun j => j.left.isSupported s && j.right.isSupported s) =
      g.joins := by
    refine List.filter_eq_self.2 fun j hj => ?_
    rw [(Endpoint.isSupported_iff hs).2 (h.left_supported j hj),
      (Endpoint.isSupported_iff hs).2 (h.right_supported j hj)]
    rfl
  exact congrArg JoinGraph.mk hkept

/-- **The joins of a sound graph are all accepted,** whatever part of them is declared already. -/
theorem addAll_append {joins : List Join} (h : Sound ⟨g.joins ++ joins⟩ s) (hs : s.names.Nodup) :
    g.addAll joins s = ⟨g.joins ++ joins⟩ := by
  induction joins generalizing g with
  | nil => rw [List.append_nil]; rfl
  | cons j js ih =>
    have hj : j ∈ g.joins ++ j :: js := List.mem_append_right _ (List.mem_cons_self ..)
    have hnew : g.contains j = false := contains_eq_false_iff.2 fun e he =>
      (List.pairwise_append.1 h.edges_distinct).2.2 e he j (List.mem_cons_self ..)
    have hadd : g.add j s = .ok ⟨g.joins ++ [j]⟩ := add_eq_ok_iff.2
      ⟨(Endpoint.isSupported_iff hs).2 (h.left_supported j hj),
        (Endpoint.isSupported_iff hs).2 (h.right_supported j hj), h.tables_differ j hj, hnew, rfl⟩
    have hstep : g.addAll (j :: js) s = JoinGraph.addAll ⟨g.joins ++ [j]⟩ js s := by
      simp [JoinGraph.addAll, hadd, Except.toOption]
    have hsplit : g.joins ++ j :: js = g.joins ++ [j] ++ js := List.append_cons ..
    rw [hstep, hsplit]
    exact ih (hsplit ▸ h)

/-- **The joins of a sound graph rebuild it.** -/
theorem addAll_eq (h : g.Sound s) (hs : s.names.Nodup) :
    ({} : JoinGraph).addAll g.joins s = g :=
  addAll_append (g := {}) h hs

end Sound
end JoinGraph
end JoinWizard
