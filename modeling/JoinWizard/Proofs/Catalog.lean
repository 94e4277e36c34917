/-
# What a catalog keeps

A catalog is made of a list of tables that may hold a name more than once.  Reading the list from
the left, a table is kept if its name is new (`Table.firstOfName_eq_foldl`).  So the tables that are
kept are those at the places where a name comes first (`Table.IsFirst`), in the order of the list,
and what the catalog answers can be read off the list:

| asked | answer |
| --- | --- |
| whether there is a table of a name | whether the list has one |
| for the table of a name | the first of that name in the list |
| for the place of a name | where that table stands in the catalog |

A table behind one of its name is left out and decides nothing for those behind it.  So lists that
differ by such tables make the same catalog (`Table.Padded.firstOfName_eq`), and so does the list
that a catalog kept.
-/

import JoinWizard.Catalog
import JoinWizard.Proofs.Table.Names
import Mathlib.Data.List.Induction

namespace JoinWizard
namespace Table

variable {t : Table} {tables more : List Table} {i : Nat}

/-! ## Reading from the left -/

/-- What is kept once one more table is read: the table too if its name is new. -/
def keepNew (kept : List Table) (t : Table) : List Table :=
  if kept.all (·.name ≠ t.name) then kept ++ [t] else kept

/-- **Reading the tables one by one keeps the first of each name.** -/
theorem firstOfName_eq_foldl (tables : List Table) :
    firstOfName tables = tables.foldl keepNew [] := by
  induction tables using List.reverseRecOn with
  | nil => rfl
  | append_singleton ts t ih =>
    -- A name is one of those kept exactly if it is one of those read.
    have hnew : (firstOfName ts).all (·.name ≠ t.name) = decide (t.name ∉ names ts) := by
      rw [Bool.eq_iff_iff, decide_eq_true_iff, ← mem_names_firstOfName]
      simp [mem_names]
    rw [List.foldl_append, ← ih, List.foldl_cons, List.foldl_nil, keepNew, hnew, firstOfName_snoc]
    by_cases h : t.name ∈ names ts
    · simp [h]
    · simp [h]

/-! ## The places where a name comes first -/

/-- Whether there is a table at the given place and none of its name before it. -/
def IsFirst (tables : List Table) (i : Nat) : Prop :=
  ∃ t, tables[i]? = some t ∧ t.name ∉ names (tables.take i)

theorem IsFirst.lt_length (h : IsFirst tables i) : i < tables.length := by
  obtain ⟨t, ht, -⟩ := h
  exact (List.getElem?_eq_some_iff.1 ht).1

/-- One more table changes no place before it, and is itself first if its name is new. -/
theorem isFirst_snoc_iff : IsFirst (tables ++ [t]) i ↔
    IsFirst tables i ∨ (i = tables.length ∧ t.name ∉ names tables) := by
  rcases Nat.lt_trichotomy i tables.length with hi | rfl | hi
  · rw [IsFirst, List.getElem?_append_left hi, List.take_append_of_le_length (Nat.le_of_lt hi),
      ← IsFirst]
    simp [Nat.ne_of_lt hi]
  · have hend : ¬ IsFirst tables tables.length := fun h => Nat.lt_irrefl _ h.lt_length
    rw [IsFirst, List.getElem?_concat_length, List.take_left]
    simp [hend]
  · have hend : ¬ IsFirst tables i := fun h => Nat.lt_asymm hi h.lt_length
    have hend' : ¬ IsFirst (tables ++ [t]) i := fun h => by
      have := h.lt_length
      rw [List.length_append, List.length_singleton] at this
      omega
    simp [hend, hend', Nat.ne_of_gt hi]

/-- **The tables that are kept are those at the places where a name comes first,** in the order of
the places. -/
theorem exists_places (tables : List Table) :
    ∃ places : List Nat, places.Pairwise (· < ·) ∧ (∀ i, i ∈ places ↔ IsFirst tables i) ∧
      (firstOfName tables).map some = places.map (tables[·]?) := by
  induction tables using List.reverseRecOn with
  | nil => exact ⟨[], .nil, fun i => ⟨nofun, fun h => absurd h.lt_length (Nat.not_lt_zero i)⟩, rfl⟩
  | append_singleton ts t ih =>
    obtain ⟨places, hsorted, hplaces, hkept⟩ := ih
    have hlt (i : Nat) (hi : i ∈ places) : i < ts.length := ((hplaces i).1 hi).lt_length
    have hread : places.map ((ts ++ [t])[·]?) = places.map (ts[·]?) :=
      List.map_congr_left fun i hi => List.getElem?_append_left (hlt i hi)
    by_cases hname : t.name ∈ names ts
    · refine ⟨places, hsorted, fun i => ?_, ?_⟩
      · rw [isFirst_snoc_iff, hplaces]
        simp [hname]
      · rw [firstOfName_snoc, if_pos hname, hread, hkept]
    · refine ⟨places ++ [ts.length], ?_, fun i => ?_, ?_⟩
      · refine List.pairwise_append.2 ⟨hsorted, List.pairwise_singleton .., fun i hi j hj => ?_⟩
        rw [List.mem_singleton.1 hj]
        exact hlt i hi
      · rw [isFirst_snoc_iff, List.mem_append, List.mem_singleton, hplaces]
        simp [hname]
      · rw [firstOfName_snoc, if_neg hname, List.map_append, List.map_append, hread, hkept,
          List.map_singleton, List.map_singleton, List.getElem?_concat_length]

/-! ## Tables put in behind one of their name -/

/-- The lists that come of `tables` by putting tables in, each somewhere behind one of its name. -/
inductive Padded (tables : List Table) : List Table → Prop
  | refl : Padded tables tables
  | put (before : List Table) (t : Table) (after : List Table) (hname : t.name ∈ names before)
    (h : Padded tables (before ++ after)) : Padded tables (before ++ t :: after)

/-- A table behind one of its name is left out. -/
theorem firstOfName_put {before : List Table} (hname : t.name ∈ names before)
    (after : List Table) :
    firstOfName (before ++ t :: after) = firstOfName (before ++ after) := by
  rw [firstOfName_append, firstOfName_append, firstOfName, List.filter_cons_of_neg (by simpa),
    List.filter_filter]
  refine congrArg (_ ++ ·) (List.filter_congr fun u _ => ?_)
  by_cases hu : u.name = t.name
  · simp [hu, hname]
  · simp [hu]

theorem Padded.firstOfName_eq (h : Padded tables more) : firstOfName more = firstOfName tables := by
  induction h with
  | refl => rfl
  | put before t after hname _ ih => rw [firstOfName_put hname, ih]

end Table

namespace Catalog

/-- What a catalog has and says of the list of tables that it was made of. -/
structure Collects (c : Catalog) (tables : List Table) : Prop where
  /-- The catalog has the tables at the places where a name comes first, in their order. -/
  first : ∃ places : List Nat, places.Pairwise (· < ·) ∧
    (∀ i, i ∈ places ↔ Table.IsFirst tables i) ∧ c.tables.map some = places.map (tables[·]?)
  /-- They are what is kept when the list is read from the left. -/
  read : c.tables = tables.foldl Table.keepNew []
  sublist : c.tables.Sublist tables
  distinct : (Table.names c.tables).Nodup
  contains_iff : ∀ name, c.contains name = true ↔ ∃ t ∈ tables, t.name = name
  /-- A name stands for the first table that has it. -/
  find?_iff : ∀ name t, c.find? name = some t ↔
    ∃ before after, tables = before ++ t :: after ∧ t.name = name ∧ ∀ u ∈ before, u.name ≠ name
  /-- Its place is the place of that table in the catalog. -/
  position?_iff : ∀ name i, c.position? name = some i ↔
    ∃ t, c.find? name = some t ∧ c.tables[i]? = some t

/-- Under distinct names the place of a name is where its table stands. -/
theorem position?_eq_some_iff {c : Catalog} (h : (Table.names c.tables).Nodup) {name : String}
    {i : Nat} : c.position? name = some i ↔
      ∃ t, c.find? name = some t ∧ c.tables[i]? = some t := by
  rw [position?, Table.position?_eq_some_iff h]
  constructor
  · rintro ⟨t, ht, rfl⟩
    exact ⟨t, Table.named?_of_mem h (List.mem_of_getElem? ht), ht⟩
  · rintro ⟨t, hfind, ht⟩
    exact ⟨t, ht, Table.name_of_named? hfind⟩

theorem find?_ofTables (schema : Option String) (tables : List Table) (name : String) :
    (ofTables schema tables).find? name = Table.named? name tables :=
  Table.named?_firstOfName name tables

/-- A name stands for the table that no table of its name comes before in the list. -/
theorem find?_ofTables_eq_some_iff {schema : Option String} {tables : List Table} {name : String}
    {t : Table} : (ofTables schema tables).find? name = some t ↔
      ∃ before after, tables = before ++ t :: after ∧ t.name = name ∧
        ∀ u ∈ before, u.name ≠ name := by
  rw [find?_ofTables, Table.named?, List.find?_eq_some_iff_append]
  constructor
  · rintro ⟨hname, before, after, hsplit, hbefore⟩
    exact ⟨before, after, hsplit, of_decide_eq_true hname, by simpa using hbefore⟩
  · rintro ⟨before, after, hsplit, hname, hbefore⟩
    exact ⟨decide_eq_true hname, before, after, hsplit, by simpa using hbefore⟩

theorem collects_ofTables (schema : Option String) (tables : List Table) :
    (ofTables schema tables).Collects tables where
  first := Table.exists_places tables
  read := Table.firstOfName_eq_foldl tables
  sublist := Table.firstOfName_sublist tables
  distinct := Table.nodup_names_firstOfName tables
  contains_iff name := by
    rw [contains, find?_ofTables, Table.isSome_named?, Table.mem_names]
  find?_iff _ _ := find?_ofTables_eq_some_iff
  position?_iff _ _ := position?_eq_some_iff (Table.nodup_names_firstOfName tables)

/-- **A catalog has the first table of each name,** whatever the label and the list it is made of,
and answers by the list.  It is made again of what it kept, and of the list with any tables put in
behind one of their name. -/
theorem first_of_each_name (schema : Option String) (tables : List Table) :
    (ofTables schema tables).schema = schema ∧ (ofTables schema tables).Collects tables ∧
      ofTables schema (ofTables schema tables).tables = ofTables schema tables ∧
      ∀ more, Table.Padded tables more → ofTables schema more = ofTables schema tables := by
  refine ⟨rfl, collects_ofTables schema tables, ?_, fun more h => ?_⟩
  · exact congrArg (mk schema) (Table.firstOfName_eq_self (Table.nodup_names_firstOfName tables))
  · exact congrArg (mk schema) h.firstOfName_eq

/-- Orders that come again with other fields, twice, make no other catalog. -/
theorem first_of_each_name_orders :
    let orders : Table := { name := "orders", fields := [⟨"id", none⟩] }
    let customers : Table := { name := "customers" }
    let repeated : Table := { name := "orders", fields := [⟨"other", none⟩] }
    ofTables none [orders, repeated, customers, repeated, customers] =
      ofTables none [orders, customers, customers] := by
  intro orders customers repeated
  have h : Table.Padded [orders, customers, customers]
      [orders, repeated, customers, repeated, customers] :=
    .put [orders] repeated [customers, repeated, customers] (by decide)
      (.put [orders, customers] repeated [customers] (by decide) .refl)
  exact (first_of_each_name none [orders, customers, customers]).2.2.2 _ h

end Catalog
end JoinWizard
