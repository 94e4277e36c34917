/-
# Tables by name

In a list of tables a name means the first table that has it.  Where the names are distinct, the
table of a name is the only one, so a table of the list is found by its own name
(`named?_of_mem`); keeping the first table of each name makes the names distinct, loses no name
(`mem_names_firstOfName`) and changes no look-up (`named?_firstOfName`).
-/

import JoinWizard.Table
import Mathlib.Data.List.Nodup

namespace JoinWizard
namespace Table

variable {name : String} {t : Table} {tables : List Table}

/-- The names of a list of tables. -/
def names (tables : List Table) : List String := tables.map Table.name

@[simp] theorem names_cons (t : Table) (tables : List Table) :
    names (t :: tables) = t.name :: names tables := rfl

@[simp] theorem names_append (ts us : List Table) : names (ts ++ us) = names ts ++ names us :=
  List.map_append ..

theorem mem_names : name ∈ names tables ↔ ∃ t ∈ tables, t.name = name := List.mem_map

theorem mem_names_of_mem (h : t ∈ tables) : t.name ∈ names tables := List.mem_map_of_mem h

theorem names_sublist {ts us : List Table} (h : ts.Sublist us) : (names ts).Sublist (names us) :=
  h.map _

/-! ## Looking a name up -/

theorem mem_of_named? (h : named? name tables = some t) : t ∈ tables := List.mem_of_find?_eq_some h

theorem name_of_named? (h : named? name tables = some t) : t.name = name := by
  simpa using List.find?_some h

theorem isSome_named? : (named? name tables).isSome ↔ name ∈ names tables := by
  simp [named?, mem_names]

theorem isSome_position? : (position? name tables).isSome ↔ name ∈ names tables := by
  simp [position?, List.findIdx?_isSome, mem_names]

/-- **Under distinct names a table is found by its own name.** -/
theorem named?_of_mem (h : (names tables).Nodup) (ht : t ∈ tables) :
    named? t.name tables = some t := by
  induction tables with
  | nil => cases ht
  | cons u us ih =>
    rw [names_cons, List.nodup_cons] at h
    rcases List.mem_cons.1 ht with rfl | hu
    · simp [named?]
    · have hne : u.name ≠ t.name := fun he => h.1 (he ▸ mem_names_of_mem hu)
      rw [named?, List.find?_cons_of_neg (by simpa using hne)]
      exact ih h.2 hu

theorem eq_of_name_eq (h : (names tables).Nodup) {u : Table} (ht : t ∈ tables) (hu : u ∈ tables)
    (he : t.name = u.name) : t = u := by
  have := named?_of_mem h ht
  rw [he, named?_of_mem h hu] at this
  exact (Option.some.inj this).symm

/-- Under distinct names a table's place is the only one where its name is. -/
theorem position?_eq_some_iff (h : (names tables).Nodup) {i : Nat} :
    position? name tables = some i ↔ ∃ t, tables[i]? = some t ∧ t.name = name := by
  rw [position?, List.findIdx?_eq_some_iff_getElem]
  constructor
  · rintro ⟨hi, hn, -⟩
    exact ⟨tables[i], List.getElem?_eq_getElem hi, of_decide_eq_true hn⟩
  · rintro ⟨t, ht, rfl⟩
    obtain ⟨hi, rfl⟩ := List.getElem?_eq_some_iff.1 ht
    refine ⟨hi, decide_eq_true rfl, fun j hj => ?_⟩
    have hne : tables[j].name ≠ tables[i].name := by
      simpa [names] using List.pairwise_iff_getElem.1 h j i (by simp [names]; omega)
        (by simpa [names] using hi) hj
    simpa using hne

/-! ## The first table of each name -/

theorem firstOfName_sublist (tables : List Table) : (firstOfName tables).Sublist tables := by
  induction tables with
  | nil => exact .slnil
  | cons t ts ih => exact (List.filter_sublist.trans ih).cons_cons t

theorem nodup_names_firstOfName (tables : List Table) : (names (firstOfName tables)).Nodup := by
  induction tables with
  | nil => exact List.nodup_nil
  | cons t ts ih =>
    rw [firstOfName, names_cons, List.nodup_cons]
    refine ⟨fun h => ?_, ih.sublist (names_sublist List.filter_sublist)⟩
    obtain ⟨u, hu, he⟩ := mem_names.1 h
    simp [he] at hu

/-- **No name is lost.** -/
theorem mem_names_firstOfName : name ∈ names (firstOfName tables) ↔ name ∈ names tables := by
  induction tables with
  | nil => rfl
  | cons t ts ih =>
    rw [firstOfName, names_cons, names_cons, List.mem_cons, List.mem_cons, ← ih]
    by_cases he : name = t.name
    · simp [he]
    · simp only [he, false_or, mem_names, List.mem_filter]
      refine ⟨fun ⟨u, ⟨hu, _⟩, hn⟩ => ⟨u, hu, hn⟩, fun ⟨u, hu, hn⟩ => ⟨u, ⟨hu, ?_⟩, hn⟩⟩
      simpa [hn] using he

/-- **No look-up changes.** -/
theorem named?_firstOfName (name : String) (tables : List Table) :
    named? name (firstOfName tables) = named? name tables := by
  induction tables with
  | nil => rfl
  | cons t ts ih =>
    by_cases he : t.name = name
    · simp [named?, firstOfName, he]
    · rw [firstOfName, named?, named?, List.find?_cons_of_neg (by simpa using he),
        List.find?_cons_of_neg (by simpa using he), List.find?_filter]
      rw [← named?, ← ih, named?]
      congr 1
      funext u
      by_cases hu : u.name = name
      · simp [hu, Ne.symm he]
      · simp [hu]

theorem firstOfName_eq_self (h : (names tables).Nodup) : firstOfName tables = tables := by
  induction tables with
  | nil => rfl
  | cons t ts ih =>
    rw [names_cons, List.nodup_cons] at h
    rw [firstOfName, ih h.2, List.filter_eq_self.2]
    intro u hu
    have : u.name ≠ t.name := fun he => h.1 (he ▸ mem_names_of_mem hu)
    simpa using this

/-- Which tables come first of their name does not depend on the names that are left out. -/
theorem firstOfName_filter_name (p : String → Bool) (tables : List Table) :
    firstOfName (tables.filter fun t => p t.name) =
      (firstOfName tables).filter fun t => p t.name := by
  induction tables with
  | nil => rfl
  | cons t ts ih =>
    rw [List.filter_cons, firstOfName, List.filter_cons]
    split
    · rw [firstOfName, ih, List.filter_filter, List.filter_filter]
      simp only [Bool.and_comm]
    · next hp =>
      rw [ih, List.filter_filter]
      refine List.filter_congr fun u _ => ?_
      by_cases he : u.name = t.name
      · simp [he, Bool.eq_false_iff.2 hp]
      · simp [he]

/-- **Of a second list, the tables follow whose names the first has not:** what was kept so far
decides, by its names alone, what is kept of the rest. -/
theorem firstOfName_append (ts us : List Table) :
    firstOfName (ts ++ us) = firstOfName ts ++ (firstOfName us).filter (·.name ∉ names ts) := by
  induction ts with
  | nil => exact (List.filter_eq_self.2 fun _ _ => decide_eq_true List.not_mem_nil).symm
  | cons t ts ih =>
    rw [List.cons_append, firstOfName, ih, List.filter_append, List.filter_filter, firstOfName,
      List.cons_append]
    refine congrArg (t :: (firstOfName ts).filter _ ++ ·) (List.filter_congr fun u _ => ?_)
    simp [not_or]

/-- One more table is kept if its name is new, and else left out. -/
theorem firstOfName_snoc (tables : List Table) (t : Table) :
    firstOfName (tables ++ [t]) =
      if t.name ∈ names tables then firstOfName tables else firstOfName tables ++ [t] := by
  rw [firstOfName_append, firstOfName, firstOfName, List.filter_nil]
  by_cases h : t.name ∈ names tables <;> simp [h]

/-! ## The tables of a list of names -/

/-- Which names come first does not depend on the names that are left out. -/
theorem eraseDups_filter (p : String → Bool) :
    ∀ names : List String, (names.filter p).eraseDups = names.eraseDups.filter p
  | [] => rfl
  | name :: names => by
    have ih := eraseDups_filter p (names.filter fun other => !other == name)
    have hcomm : (names.filter fun other => !other == name).filter p =
        (names.filter p).filter fun other => !other == name := by
      rw [List.filter_filter, List.filter_filter]
      exact List.filter_congr fun _ _ => Bool.and_comm ..
    rw [List.eraseDups_cons, List.filter_cons, List.filter_cons, ← ih, hcomm]
    split
    · rw [List.eraseDups_cons]
    · -- The name is left out, so none of the names that stay is the same.
      next hp =>
      have hself : ((names.filter p).filter fun other => !other == name) = names.filter p := by
        refine List.filter_eq_self.2 fun other hother => ?_
        have : other ≠ name := fun he => hp (he ▸ (List.mem_filter.1 hother).2)
        simpa using this
      rw [hself]
termination_by names => names.length
decreasing_by exact Nat.lt_succ_of_le (List.length_filter_le ..)

variable {α : Type} {find : String → Option α}

/-- A name that stands for nothing takes no name's place. -/
theorem filterMap_eraseDups_of_none (h : find name = none) (names : List String) :
    (name :: names).eraseDups.filterMap find = names.eraseDups.filterMap find := by
  rw [List.eraseDups_cons, List.filterMap_cons, h, eraseDups_filter, List.filterMap_filter]
  refine List.filterMap_congr fun other _ => ?_
  by_cases he : other = name
  · simp [he, h]
  · simp [he]

/-- Behind a name that stands for something, it is found no more. -/
theorem filterMap_eraseDups_of_some {a : α} (h : find name = some a) (names : List String) :
    (name :: names).eraseDups.filterMap find =
      a :: names.eraseDups.filterMap fun other => if !other == name then find other else none := by
  rw [List.eraseDups_cons, List.filterMap_cons, h, eraseDups_filter, List.filterMap_filter]

/-- **Tables looked up by name come once each,** in the order in which their names come first. -/
theorem firstOfName_filterMap {find : String → Option Table}
    (hfind : ∀ name t, find name = some t → t.name = name) (names : List String) :
    firstOfName (names.filterMap find) = names.eraseDups.filterMap find := by
  induction names with
  | nil => rfl
  | cons name names ih =>
    rw [List.filterMap_cons]
    cases hf : find name with
    | none => rw [filterMap_eraseDups_of_none hf, ih]
    | some t =>
      rw [filterMap_eraseDups_of_some hf, firstOfName, ih, List.filter_filterMap, hfind name t hf]
      refine congrArg (t :: ·) (List.filterMap_congr fun other _ => ?_)
      cases hother : find other with
      | none => simp
      | some u =>
        rw [Option.filter_some, hfind other u hother]
        simp

end Table
end JoinWizard
