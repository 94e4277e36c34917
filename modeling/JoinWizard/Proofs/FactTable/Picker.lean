/-
# The picker's rows are the selected tables

A picker counts rows by 32-bit signed numbers from 0, where no table is, and a selection counts
places from 0, where its first table is.  A table is found by its row, and a row by the name of its
table.  Over a selection of distinct names that is not too long to be counted, the two are inverse
to each other (`FactChoices.tableAt?_eq_some_iff`):

| row | table |
| --- | --- |
| below 1 | none |
| from 1 to the number of tables | the one at the place before |
| above | none |

The last row is the number of tables, so `2 ^ 31 - 1` tables are the most whose rows can all be
counted, and up to there no conversion loses anything and no sum wraps.

Deselecting other tables moves the rows but not the fact table, which is kept by name: its row is
looked up anew (`FactTable.kept_of_spares`).
-/

import JoinWizard.Proofs.JoinGraph.Cascades
import JoinWizard.Proofs.Session.Consistent
import Mathlib.Algebra.Group.Nat.Defs

namespace JoinWizard

namespace Selection

variable {s : Selection} {t : Table} {e : Edit} {history : List Edit}

/-- A change that deselects other tables than the given one, at most. -/
def Edit.Spares (t : Table) : Edit → Prop
  | .remove names => t.name ∉ names
  | .retain keep => keep t = true
  | .add _ | .clear => False

theorem Edit.Spares.ne_add (h : e.Spares t) (tables : List Table) : e ≠ .add tables := by
  rintro rfl
  exact h

/-- A table that is spared stays selected. -/
theorem mem_edit_of_spares (hs : s.names.Nodup) (ht : t ∈ s.tables) (he : e.Spares t) :
    t ∈ (s.edit e).tables := by
  cases e with
  | remove names =>
    show t ∈ (s.remove names).2.tables
    rw [tables_remove hs]
    exact List.mem_filter.2 ⟨ht, decide_eq_true he⟩
  | retain keep => exact List.mem_filter.2 ⟨ht, he⟩
  | add tables => exact he.elim
  | clear => exact he.elim

theorem mem_after_of_spares (hs : s.names.Nodup) (ht : t ∈ s.tables)
    (h : ∀ e ∈ history, e.Spares t) : t ∈ (s.after history).tables := by
  induction history generalizing s with
  | nil => exact ht
  | cons e history ih =>
    obtain ⟨he, hrest⟩ := List.forall_mem_cons.1 h
    have hsub : (s.edit e).tables.Sublist s.tables := tables_edit_sublist hs he.ne_add
    have hdistinct : (s.edit e).names.Nodup := hs.sublist (Table.names_sublist hsub)
    exact ih hdistinct (mem_edit_of_spares hs ht he) hrest

end Selection

namespace FactChoices

variable {c : FactChoices} {i : Int32} {t : Table} {name : String}

/-- The row of a place is one more, also as a 32-bit number, as long as it can be counted. -/
theorem toInt_row {place : Nat} (h : place < 2 ^ 31 - 1) :
    (Int32.ofNat place).toInt = place ∧ (Int32.ofNat place + 1).toInt = place + 1 := by
  have hplace : (Int32.ofNat place).toInt = place := Int32.toInt_ofNat_of_lt (by omega)
  refine ⟨hplace, ?_⟩
  rw [Int32.toInt_add, hplace, Int32.toInt_one]
  exact Int.bmod_eq_of_le (by omega) (by omega)

/-- A row that is not below 1 has a place, found without loss. -/
theorem toNat_row (h : 1 ≤ i) :
    (i.toInt.toNat : Int) = i.toInt ∧ 1 ≤ i.toInt.toNat := by
  have hi : 1 ≤ i.toInt := Int32.le_iff_toInt_le.1 h
  omega

theorem not_le_noneIndex_iff : ¬i ≤ noneIndex ↔ 1 ≤ i := by
  rw [Int32.le_iff_toInt_le, Int32.le_iff_toInt_le, noneIndex, Int32.toInt_zero, Int32.toInt_one]
  omega

/-- From row 1 on, a row shows the table at the place before. -/
theorem tableAt?_of_le (h : 1 ≤ i) : c.tableAt? i = c.selection.tables[i.toInt.toNat - 1]? := by
  rw [tableAt?, if_neg (not_le_noneIndex_iff.2 h)]

theorem le_of_tableAt? (h : c.tableAt? i = some t) : 1 ≤ i := by
  rw [← not_le_noneIndex_iff]
  intro hi
  rw [tableAt?, if_pos hi] at h
  cases h

theorem mem_of_tableAt? (h : c.tableAt? i = some t) : t ∈ c.selection.tables := by
  rw [tableAt?_of_le (le_of_tableAt? h)] at h
  exact List.mem_of_getElem? h

/-- **The rows that have a table** are those from 1 to the number of tables. -/
theorem isSome_tableAt?_iff :
    (c.tableAt? i).isSome ↔ 1 ≤ i ∧ i.toInt ≤ c.selection.size := by
  constructor
  · intro h
    obtain ⟨t, ht⟩ := Option.isSome_iff_exists.1 h
    have hi := le_of_tableAt? ht
    rw [tableAt?_of_le hi] at ht
    obtain ⟨hlt, -⟩ := List.getElem?_eq_some_iff.1 ht
    have hnat := toNat_row hi
    refine ⟨hi, ?_⟩
    show i.toInt ≤ (c.selection.tables.length : Int)
    omega
  · rintro ⟨hi, hle⟩
    have hnat := toNat_row hi
    have hle : i.toInt ≤ (c.selection.tables.length : Int) := hle
    rw [tableAt?_of_le hi, List.getElem?_eq_getElem (by omega)]
    rfl

/-- The row of the table at a place shows that table. -/
theorem tableAt?_row {place : Nat} (h : place < 2 ^ 31 - 1) :
    c.tableAt? (Int32.ofNat place + 1) = c.selection.tables[place]? := by
  obtain ⟨-, hrow⟩ := toInt_row h
  have hle : 1 ≤ Int32.ofNat place + 1 := by
    rw [Int32.le_iff_toInt_le, hrow, Int32.toInt_one]
    omega
  have hplace : (Int32.ofNat place + 1).toInt.toNat - 1 = place := by omega
  rw [tableAt?_of_le hle, hplace]

/-- A name has a row exactly if it is selected. -/
theorem isSome_indexOf?_iff : (c.indexOf? name).isSome ↔ name ∈ c.selection.names := by
  rw [indexOf?, Option.isSome_map]
  exact Selection.contains_iff

section Counted

variable (hs : c.selection.names.Nodup) (hn : c.selection.size ≤ 2 ^ 31 - 1)
include hs hn

/-- **The row of a name is the row that shows its table.** -/
theorem indexOf?_eq_some_iff :
    c.indexOf? name = some i ↔ ∃ t, c.tableAt? i = some t ∧ t.name = name := by
  rw [indexOf?, Option.map_eq_some_iff]
  constructor
  · rintro ⟨place, hplace, rfl⟩
    obtain ⟨t, ht, hname⟩ := (Table.position?_eq_some_iff hs).1 hplace
    obtain ⟨hlt, -⟩ := List.getElem?_eq_some_iff.1 ht
    have hcounted : place < 2 ^ 31 - 1 := Nat.lt_of_lt_of_le hlt hn
    exact ⟨t, (tableAt?_row hcounted).trans ht, hname⟩
  · rintro ⟨t, ht, hname⟩
    have hi := le_of_tableAt? ht
    rw [tableAt?_of_le hi] at ht
    obtain ⟨hlt, -⟩ := List.getElem?_eq_some_iff.1 ht
    have hcounted : i.toInt.toNat - 1 < 2 ^ 31 - 1 := Nat.lt_of_lt_of_le hlt hn
    refine ⟨_, (Table.position?_eq_some_iff hs).2 ⟨t, ht, hname⟩, Int32.toInt_inj.1 ?_⟩
    have hnat := toNat_row hi
    rw [(toInt_row hcounted).2]
    omega

/-- **Rows and tables are one to one.** -/
theorem tableAt?_eq_some_iff :
    c.tableAt? i = some t ↔ t ∈ c.selection.tables ∧ c.indexOf? t.name = some i := by
  rw [indexOf?_eq_some_iff hs hn]
  constructor
  · intro ht
    exact ⟨mem_of_tableAt? ht, t, ht, rfl⟩
  · rintro ⟨hmem, u, hu, hname⟩
    rwa [← Table.eq_of_name_eq hs (mem_of_tableAt? hu) hmem hname]

/-- The row to show for a selected table shows that table. -/
theorem tableAt?_indexFor (ht : t ∈ c.selection.tables) :
    c.tableAt? (c.indexFor (some t.name)) = some t := by
  have hrow : (c.indexOf? t.name).isSome := isSome_indexOf?_iff.2 (Table.mem_names_of_mem ht)
  obtain ⟨i, hi⟩ := Option.isSome_iff_exists.1 hrow
  rw [indexFor, Option.bind_some, hi, Option.getD_some]
  exact (tableAt?_eq_some_iff hs hn).2 ⟨ht, hi⟩

/-- The row to show for what was picked by a row is that row, or the first if it has no table. -/
theorem indexFor_tableAt? (i : Int32) :
    c.indexFor ((c.tableAt? i).map Table.name) =
      if 1 ≤ i ∧ i.toInt ≤ c.selection.size then i else noneIndex := by
  cases ht : c.tableAt? i with
  | none =>
    rw [if_neg (by simp [← isSome_tableAt?_iff, ht])]
    rfl
  | some t =>
    rw [if_pos (isSome_tableAt?_iff.1 (by simp [ht])), Option.map_some, indexFor, Option.bind_some,
      ((tableAt?_eq_some_iff hs hn).1 ht).2]
    rfl

end Counted

end FactChoices

namespace FactTable

variable {s : Selection} {fact : FactTable} {t : Table} {i : Int32}

/-- A row picks the table it shows. -/
theorem name_ofIndex (i : Int32) (s : Selection) :
    (ofIndex i s).name = ((FactChoices.mk s).tableAt? i).map Table.name := by
  rw [ofIndex, name_ofName]
  cases ht : (FactChoices.mk s).tableAt? i with
  | none => rfl
  | some t =>
    have hmem : t.name ∈ s.names := Table.mem_names_of_mem (FactChoices.mem_of_tableAt? ht)
    exact Option.filter_some_pos (decide_eq_true hmem)

/-- **A fact table that is spared stays,** and so does its definition. -/
theorem kept_of_spares (hs : s.names.Nodup) (ht : fact.table? s = some t)
    {history : List Selection.Edit} (h : ∀ e ∈ history, e.Spares t) :
    t ∈ (s.after history).tables ∧ fact.name = some t.name ∧
      fact.revalidate (s.after history) = fact := by
  obtain ⟨name, hname, hfind⟩ := Option.bind_eq_some_iff.1 ht
  obtain rfl : t.name = name := Table.name_of_named? hfind
  have hmem := Selection.mem_after_of_spares hs (Table.mem_of_named? hfind) h
  refine ⟨hmem, hname, revalidate_eq_self fun other hother => ?_⟩
  obtain rfl : t.name = other := Option.some.inj (hname.symm.trans hother)
  exact Table.mem_names_of_mem hmem

end FactTable

namespace FactChoices

/-- What a picker owes a selection. -/
structure Faithful (c : FactChoices) : Prop where
  /-- The rows that have a table are those from 1 to the number of tables. -/
  row_iff : ∀ i, (c.tableAt? i).isSome ↔ 1 ≤ i ∧ i.toInt ≤ c.selection.size
  /-- Row `i` shows table `i`, counted from 1, and is the row of its name. -/
  row_table : ∀ i t, c.tableAt? i = some t →
    c.selection.tables[(i.toInt - 1).toNat]? = some t ∧ c.indexOf? t.name = some i
  /-- The names that have a row are those that are selected. -/
  name_iff : ∀ name, (c.indexOf? name).isSome ↔ name ∈ c.selection.names
  /-- The row of a name shows the table of that name. -/
  name_table : ∀ name i, c.indexOf? name = some i →
    ∃ t, c.tableAt? i = some t ∧ c.selection.find? name = some t
  /-- Picking a row chooses its table, and then that row is shown, or else the first. -/
  picked : ∀ i, (FactTable.ofIndex i c.selection).name = (c.tableAt? i).map Table.name ∧
    c.indexFor (FactTable.ofIndex i c.selection).name =
      if 1 ≤ i ∧ i.toInt ≤ c.selection.size then i else noneIndex
  /-- No conversion of a place to a row loses anything, and no sum wraps. -/
  counted : (∀ place < c.selection.size, (Int32.ofNat place).toInt = place ∧
    (Int32.ofNat place + 1).toInt = place + 1) ∧ c.size ≤ 2 ^ 31
  /-- Nor does a conversion back, and there is one to take away. -/
  counted_back : ∀ i, ¬i ≤ noneIndex → (i.toInt.toNat : Int) = i.toInt ∧ 1 ≤ i.toInt.toNat
  /-- After other tables were deselected, the fact table is what it was, and the row that is shown
  for it is its row. -/
  kept : ∀ (fact : FactTable) t, fact.table? c.selection = some t →
    ∀ history : List Selection.Edit, (∀ e ∈ history, e.Spares t) →
      let rest := c.selection.after history
      fact.revalidate rest = fact ∧ (fact.revalidate rest).table? rest = some t ∧
        (FactChoices.mk rest).tableAt?
          ((FactChoices.mk rest).indexFor (fact.revalidate rest).name) = some t

/-- **The picker's rows are the selected tables,** one to one, for every selection of distinct names
that 32 bits can count. -/
theorem rows_are_tables (s : Selection) (hs : s.names.Nodup) (hn : s.size ≤ 2 ^ 31 - 1) :
    Faithful ⟨s⟩ where
  row_iff i := isSome_tableAt?_iff
  row_table i t ht := by
    have hi := le_of_tableAt? ht
    have hnat := toNat_row hi
    have hplace : (i.toInt - 1).toNat = i.toInt.toNat - 1 := by omega
    refine ⟨?_, ((tableAt?_eq_some_iff hs hn).1 ht).2⟩
    rw [hplace, ← ht, tableAt?_of_le hi]
  name_iff name := isSome_indexOf?_iff
  name_table name i hi := by
    obtain ⟨t, ht, rfl⟩ := (indexOf?_eq_some_iff hs hn).1 hi
    exact ⟨t, ht, Table.named?_of_mem hs (mem_of_tableAt? ht)⟩
  picked i := ⟨FactTable.name_ofIndex i s, by
    rw [FactTable.name_ofIndex, indexFor_tableAt? hs hn]⟩
  counted := by
    refine ⟨fun place hplace => toInt_row (Nat.lt_of_lt_of_le hplace hn), ?_⟩
    show s.size + 1 ≤ 2 ^ 31
    omega
  counted_back i hi := toNat_row (not_le_noneIndex_iff.1 hi)
  kept fact t ht history hspared := by
    obtain ⟨hmem, hname, hkept⟩ := FactTable.kept_of_spares hs ht hspared
    have hsub : (s.after history).tables.Sublist s.tables :=
      Selection.tables_after_sublist hs fun tables hadd => (hspared _ hadd).ne_add tables rfl
    have hdistinct : (s.after history).names.Nodup := hs.sublist (Table.names_sublist hsub)
    have hcounted : (s.after history).size ≤ 2 ^ 31 - 1 := Nat.le_trans hsub.length_le hn
    refine ⟨hkept, ?_, ?_⟩
    · rw [hkept, FactTable.table?, hname]
      exact Table.named?_of_mem hdistinct hmem
    · rw [hkept, hname]
      exact tableAt?_indexFor hdistinct hcounted hmem

/-- Orders are picked by the third row; when the tables before them are deselected, they are shown
in the first. -/
theorem rows_are_tables_orders :
    let orders : Table := ⟨"orders", none, []⟩
    let s : Selection := ⟨[⟨"stores", none, []⟩, ⟨"customers", none, []⟩, orders]⟩
    let history := [.remove ["stores", "stores"], .retain fun t => t.name ≠ "customers"]
    let fact := FactTable.ofIndex 3 s
    s.names.Nodup ∧ s.size ≤ 2 ^ 31 - 1 ∧ fact.name = some "orders" ∧
      (∀ e ∈ history, e.Spares orders) ∧ (FactTable.ofIndex 4 s).name = none ∧
      (FactChoices.mk s).indexFor fact.name = 3 ∧
      (FactChoices.mk (s.after history)).indexFor fact.name = 1 ∧
      (fact.revalidate (s.after history)).table? (s.after history) = some orders := by
  intro orders s history fact
  have hdistinct : s.names.Nodup := by decide
  have hcounted : s.size ≤ 2 ^ 31 - 1 := by decide
  have hfaithful := rows_are_tables s hdistinct hcounted
  have hspared : ∀ e ∈ history, e.Spares orders := by
    simp [history, Selection.Edit.Spares, orders]
  refine ⟨hdistinct, hcounted, (hfaithful.picked 3).1.trans (by decide), hspared,
    (hfaithful.picked 4).1.trans (by decide), (hfaithful.picked 3).2.trans (by decide), by decide,
    (hfaithful.kept fact orders (by decide) history hspared).2.1⟩

end FactChoices
end JoinWizard
