/-
# What the operations on a selection keep

The names of a selection are distinct, and every operation keeps them so: `add` appends tables of
new names only (`nodup_names_add`), as if one by one (`additions_cons`), `remove` is a filter
(`tables_remove`) that gives back what it took (`removed_eq`) and loses nothing (`perm_remove`),
`redefine` keeps every name in its place (`names_redefine`), as if definitions of distinct names
were swapped in one by one, each at the place of its name (`redefine_eq_foldl`).
-/

import JoinWizard.Selection
import JoinWizard.Proofs.Table.Names

namespace JoinWizard
namespace Selection

variable {s : Selection} {name : String} {t : Table}

theorem contains_iff : s.contains name = true ↔ name ∈ s.names := Table.isSome_position?

theorem contains_eq_false_iff : s.contains name = false ↔ name ∉ s.names := by
  rw [← contains_iff, Bool.not_eq_true]

theorem find?_eq_none_iff : s.find? name = none ↔ name ∉ s.names := by
  rw [← Option.not_isSome_iff_eq_none, find?, Table.isSome_named?]
  rfl

/-- A name is contained exactly if a table is found for it. -/
theorem isSome_find? (s : Selection) (name : String) :
    (s.find? name).isSome = s.contains name := by
  rw [Bool.eq_iff_iff, contains_iff, find?, Table.isSome_named?]
  rfl

/-! ## Adding -/

theorem additions_sublist (s : Selection) (tables : List Table) :
    (s.additions tables).Sublist tables :=
  (Table.firstOfName_sublist _).trans List.filter_sublist

theorem not_mem_names_of_mem_additions {tables : List Table} (h : t ∈ s.additions tables) :
    t.name ∉ s.names := by
  have := (Table.firstOfName_sublist _).subset h
  rw [List.mem_filter, Bool.not_eq_true', contains_eq_false_iff] at this
  exact this.2

/-- **Adding keeps the names distinct.** -/
theorem nodup_names_add (h : s.names.Nodup) (tables : List Table) :
    (s.add tables).names.Nodup := by
  change (Table.names (s.tables ++ s.additions tables)).Nodup
  rw [Table.names_append, List.nodup_append]
  refine ⟨h, Table.nodup_names_firstOfName _, fun n hn m hm hnm => ?_⟩
  obtain ⟨t, ht, rfl⟩ := Table.mem_names.1 hm
  exact not_mem_names_of_mem_additions ht (hnm ▸ hn)

/-- Tables of distinct names are all added to a selection that is empty. -/
theorem add_empty {tables : List Table} (h : (Table.names tables).Nodup) :
    ({} : Selection).add tables = ⟨tables⟩ := by
  have hnew : tables.filter (fun t => !({} : Selection).contains t.name) = tables :=
    List.filter_eq_self.2 fun _ _ => rfl
  rw [add, additions, hnew, Table.firstOfName_eq_self h]
  rfl

theorem contains_append_singleton (s : Selection) (t : Table) (name : String) :
    contains ⟨s.tables ++ [t]⟩ name = (s.contains name || t.name = name) := by
  have hnames : names ⟨s.tables ++ [t]⟩ = s.names ++ [t.name] := List.map_append ..
  rw [Bool.eq_iff_iff, contains_iff, hnames, List.mem_append, List.mem_singleton, Bool.or_eq_true,
    contains_iff, decide_eq_true_iff, eq_comm (a := name)]

/-- **A table that is added is there for the next one:** what is added at once is what is added
one by one. -/
theorem additions_cons (s : Selection) (t : Table) (ts : List Table) :
    s.additions (t :: ts) =
      if s.contains t.name then s.additions ts else t :: additions ⟨s.tables ++ [t]⟩ ts := by
  rw [additions, List.filter_cons]
  cases s.contains t.name with
  | true => rfl
  | false =>
    have hnext : (ts.filter fun u => !contains ⟨s.tables ++ [t]⟩ u.name) =
        (ts.filter fun u => !s.contains u.name).filter fun u => u.name ≠ t.name := by
      rw [List.filter_filter]
      refine List.filter_congr fun u _ => ?_
      rw [contains_append_singleton, Bool.not_or, Bool.and_comm]
      by_cases he : t.name = u.name <;> simp [he, eq_comm]
    show _ = t :: Table.firstOfName (ts.filter fun u => !contains ⟨s.tables ++ [t]⟩ u.name)
    rw [hnext, Table.firstOfName_filter_name fun name => name ≠ t.name]
    rfl

/-! ## Removing -/

theorem tables_erase (h : s.names.Nodup) (name : String) :
    (s.erase name).tables = s.tables.filter (·.name ≠ name) := by
  obtain ⟨tables⟩ := s
  change (Table.names tables).Nodup at h
  change tables.eraseP (·.name = name) = _
  induction tables with
  | nil => rfl
  | cons t ts ih =>
    rw [Table.names_cons, List.nodup_cons] at h
    by_cases he : t.name = name
    · have hrest : ts.filter (·.name ≠ name) = ts := List.filter_eq_self.2 fun u hu => by
        have : u.name ≠ name := fun hn => h.1 (he ▸ hn ▸ Table.mem_names_of_mem hu)
        simpa using this
      simp only [List.eraseP_cons, List.filter_cons, he, decide_true, ne_eq, not_true,
        decide_false, cond_true, Bool.false_eq_true, if_false]
      exact hrest.symm
    · simp only [List.eraseP_cons, List.filter_cons, he, decide_false, ne_eq, not_false_eq_true,
        decide_true, cond_false, if_true]
      exact congrArg _ (ih h.2)

theorem nodup_names_erase (h : s.names.Nodup) (name : String) : (s.erase name).names.Nodup :=
  h.sublist (Table.names_sublist List.eraseP_sublist)

/-- **Removing is a filter:** what is left are the tables that are not named, in their order. -/
theorem tables_remove (h : s.names.Nodup) (names : List String) :
    (s.remove names).2.tables = s.tables.filter (·.name ∉ names) := by
  induction names generalizing s with
  | nil => exact (List.filter_eq_self.2 fun _ _ => by simp).symm
  | cons name names ih =>
    cases hf : s.find? name with
    | some t =>
      simp only [remove, hf]
      rw [ih (nodup_names_erase h name), tables_erase h, List.filter_filter]
      congr 1
      funext u
      simp [Bool.and_comm]
    | none =>
      simp only [remove, hf]
      rw [ih h]
      refine List.filter_congr fun u hu => ?_
      have : u.name ≠ name := fun hn =>
        find?_eq_none_iff.1 hf (hn ▸ Table.mem_names_of_mem hu)
      simp [this]

/-- The names that are left are those that were there and are not given. -/
theorem mem_names_remove (h : s.names.Nodup) {names : List String} :
    name ∈ (s.remove names).2.names ↔ name ∈ s.names ∧ name ∉ names := by
  rw [Selection.names, tables_remove h, List.mem_map, Selection.names, List.mem_map]
  constructor
  · rintro ⟨t, ht, rfl⟩
    obtain ⟨hmem, hnot⟩ := List.mem_filter.1 ht
    exact ⟨⟨t, hmem, rfl⟩, of_decide_eq_true hnot⟩
  · rintro ⟨⟨t, ht, rfl⟩, hnot⟩
    exact ⟨t, List.mem_filter.2 ⟨ht, decide_eq_true hnot⟩, rfl⟩

/-- A table that was deselected is found no more, and every other one still is. -/
theorem find?_erase (h : s.names.Nodup) (name other : String) :
    (s.erase name).find? other = if !other == name then s.find? other else none := by
  rw [find?, Table.named?, tables_erase h, List.find?_filter]
  by_cases he : other = name
  · rw [if_neg (by simp [he]), List.find?_eq_none]
    intro t _
    simp [he]
  · rw [if_pos (by simp [he]), find?, Table.named?]
    congr 1
    funext t
    by_cases ht : t.name = other <;> simp [ht, he]

/-- **What removing gives back:** the selected tables that are named, once each, in the order in
which they are named first. -/
theorem removed_eq (h : s.names.Nodup) (names : List String) :
    (s.remove names).1 = names.eraseDups.filterMap s.find? := by
  induction names generalizing s with
  | nil => rfl
  | cons name names ih =>
    cases hf : s.find? name with
    | none =>
      simp only [remove, hf]
      rw [ih h, Table.filterMap_eraseDups_of_none hf]
    | some t =>
      simp only [remove, hf]
      rw [ih (nodup_names_erase h name), Table.filterMap_eraseDups_of_some hf]
      exact congrArg (t :: ·) (List.filterMap_congr fun other _ => find?_erase h name other)

/-- Where nothing is given back, nothing was taken. -/
theorem remove_eq_self {names : List String} (h : (s.remove names).1 = []) :
    (s.remove names).2 = s := by
  induction names with
  | nil => rfl
  | cons name names ih =>
    cases hf : s.find? name with
    | none =>
      simp only [remove, hf] at h ⊢
      exact ih h
    | some t =>
      simp only [remove, hf] at h
      cases h

theorem remove_sublist (h : s.names.Nodup) (names : List String) :
    (s.remove names).2.tables.Sublist s.tables := by
  rw [tables_remove h]
  exact List.filter_sublist

/-- A table that is found and those that are left without it are those that were there. -/
theorem perm_erase (h : s.find? name = some t) : (t :: (s.erase name).tables).Perm s.tables := by
  obtain ⟨tables⟩ := s
  change Table.named? name tables = some t at h
  change (t :: tables.eraseP (·.name = name)).Perm tables
  induction tables with
  | nil => cases h
  | cons u us ih =>
    by_cases he : u.name = name
    · obtain rfl : u = t := by simpa [Table.named?, he] using h
      simp [he]
    · have hus : Table.named? name us = some t := by simpa [Table.named?, he] using h
      simpa [he] using (List.Perm.swap u t _).trans ((ih hus).cons u)

/-- **What removing gives back and what it leaves** are the tables that were there. -/
theorem perm_remove (s : Selection) (names : List String) :
    ((s.remove names).1 ++ (s.remove names).2.tables).Perm s.tables := by
  induction names generalizing s with
  | nil => exact .refl _
  | cons name names ih =>
    cases hf : s.find? name with
    | none =>
      simp only [remove, hf]
      exact ih s
    | some t =>
      simp only [remove, hf]
      exact ((ih (s.erase name)).cons t).trans (perm_erase hf)

/-- So are those that a condition refuses and those that it keeps. -/
theorem perm_retain (s : Selection) (keep : Table → Bool) :
    ((s.retain keep).1 ++ (s.retain keep).2.tables).Perm s.tables :=
  List.perm_append_comm.trans (List.filter_append_perm keep s.tables)

/-! ## Giving new definitions -/

theorem names_redefine (s : Selection) (tables : List Table) :
    (s.redefine tables).names = s.names := by
  change (s.tables.map _).map Table.name = s.tables.map Table.name
  rw [List.map_map]
  refine List.map_congr_left fun t _ => ?_
  change ((Table.named? t.name tables).getD t).name = t.name
  cases hn : Table.named? t.name tables with
  | none => rfl
  | some u => exact Table.name_of_named? hn

/-- A table whose name has a definition is given that definition. -/
theorem named?_of_mem_redefine {tables : List Table} (h : t ∈ (s.redefine tables).tables)
    (hn : t.name ∈ Table.names tables) : Table.named? t.name tables = some t := by
  obtain ⟨u, hu, rfl⟩ := List.mem_map.1 h
  cases hd : Table.named? u.name tables with
  | none =>
    rw [hd, Option.getD_none, ← Table.isSome_named?, hd] at hn
    cases hn
  | some v => rw [Option.getD_some, Table.name_of_named? hd, hd]

/-- **Keeping the tables that have a definition and giving it to them** is looking each of them
up. -/
theorem tables_redefine_retain (s : Selection) (tables : List Table) :
    ((s.retain fun t => (Table.named? t.name tables).isSome).2.redefine tables).tables =
      s.tables.filterMap fun t => Table.named? t.name tables := by
  change (s.tables.filter _).map _ = _
  rw [← List.filterMap_eq_map', List.filterMap_filter]
  refine List.filterMap_congr fun t _ => ?_
  cases Table.named? t.name tables <;> rfl

/-- Tables that have their definitions already keep them. -/
theorem redefine_eq_self {tables : List Table}
    (h : ∀ t ∈ s.tables, Table.named? t.name tables = some t) : s.redefine tables = s := by
  have hmap : s.tables.map (fun t => (Table.named? t.name tables).getD t) = s.tables := by
    refine (List.map_congr_left fun t ht => ?_).trans (List.map_id _)
    rw [h t ht]
    rfl
  exact congrArg Selection.mk hmap

/-- Puts a definition in the place of the selected table of its name, if there is one. -/
def swap (s : Selection) (t : Table) : Selection :=
  match s.position? t.name with
  | some i => ⟨s.tables.set i t⟩
  | none => s

/-- Under distinct names one table at most is swapped. -/
theorem tables_swap (h : s.names.Nodup) (t : Table) :
    (s.swap t).tables = s.tables.map fun u => if u.name = t.name then t else u := by
  unfold swap
  cases hp : s.position? t.name with
  | none =>
    have hnone : t.name ∉ s.names := by
      rw [← contains_iff, contains, hp]
      exact Bool.false_ne_true
    refine ((List.map_congr_left fun u hu => if_neg fun he => ?_).trans (List.map_id _)).symm
    exact hnone (he ▸ Table.mem_names_of_mem hu)
  | some i =>
    obtain ⟨old, hold, hname⟩ := (Table.position?_eq_some_iff h).1 hp
    refine List.ext_getElem? fun j => ?_
    rw [List.getElem?_map]
    by_cases hj : i = j
    · subst hj
      rw [List.getElem?_set_self (List.getElem?_eq_some_iff.1 hold).1, hold, Option.map_some,
        if_pos hname]
    · rw [List.getElem?_set_ne hj]
      -- No other place has the name.
      cases hu : s.tables[j]? with
      | none => rfl
      | some u =>
        have hother : u.name ≠ t.name := fun he =>
          hj (Option.some.inj (hp.symm.trans ((Table.position?_eq_some_iff h).2 ⟨u, hu, he⟩)))
        rw [Option.map_some, if_neg hother]

theorem names_swap (h : s.names.Nodup) (t : Table) : (s.swap t).names = s.names := by
  rw [names, tables_swap h, List.map_map]
  refine List.map_congr_left fun u _ => ?_
  by_cases he : u.name = t.name <;> simp [he]

/-- **New definitions are given** by swapping them in one by one. -/
theorem redefine_eq_foldl (hs : s.names.Nodup) {tables : List Table}
    (h : (Table.names tables).Nodup) : s.redefine tables = tables.foldl swap s := by
  induction tables generalizing s with
  | nil => exact congrArg Selection.mk (List.map_id _)
  | cons t ts ih =>
    rw [Table.names_cons, List.nodup_cons] at h
    rw [List.foldl_cons, ← ih (by rwa [names_swap hs]) h.2]
    refine congrArg Selection.mk ?_
    rw [tables_swap hs, List.map_map]
    refine List.map_congr_left fun u _ => ?_
    rw [Function.comp_apply]
    by_cases he : u.name = t.name
    · -- What was swapped in stays, for none of the definitions that follow has its name.
      have hlast : Table.named? t.name ts = none := by
        rw [← Option.not_isSome_iff_eq_none, Table.isSome_named?]
        exact h.1
      rw [if_pos he, hlast, he, Table.named?, List.find?_cons_of_pos (by simp)]
      rfl
    · rw [if_neg he, Table.named?, List.find?_cons_of_neg (by simpa using Ne.symm he)]
      rfl

end Selection
end JoinWizard
