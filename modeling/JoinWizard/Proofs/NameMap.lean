/-
# Maps from names, read and rebuilt

The value of a name is the one it was given last (`NameMap.find?_insert`).  The entries of a map
stand in increasing order of their names, so a map is rebuilt from them one after the other, each
behind those that are there (`NameMap.ofList_entries`); that is how a map survives being written
and read.
-/

import JoinWizard.NameMap

namespace JoinWizard

/-- Taking out the entries of one key leaves the others, and none of it. -/
theorem lookup_filter_ne {κ α : Type} [DecidableEq κ] [BEq κ] [LawfulBEq κ] {key name : κ}
    {entries : List (κ × α)} :
    (entries.filter (·.1 ≠ name)).lookup key =
      if key = name then none else entries.lookup key := by
  induction entries with
  | nil => simp
  | cons e rest ih =>
    obtain ⟨k, v⟩ := e
    rw [List.filter_cons, List.lookup_cons]
    by_cases hk : k = name
    · subst hk
      rw [if_neg (by simp), ih]
      split
      · rfl
      · next h => rw [beq_eq_false_iff_ne.2 h]
    · rw [if_pos (by simpa using hk), List.lookup_cons, ih]
      by_cases h : key = k
      · subst h
        simp [hk]
      · rw [beq_eq_false_iff_ne.2 h]

namespace NameMap

variable {α : Type}

theorem ext_entries {m n : NameMap α} (h : m.entries = n.entries) : m = n := by
  obtain ⟨entries, _⟩ := m
  obtain ⟨entries', _⟩ := n
  obtain rfl : entries = entries' := h
  rfl

theorem lookup_insertEntry {name key : String} {value : α} {entries : List (String × α)} :
    (insertEntry name value entries).lookup key =
      if key = name then some value else entries.lookup key := by
  induction entries with
  | nil =>
    rw [insertEntry, List.lookup_cons]
    split <;> simp_all
  | cons e rest ih =>
    obtain ⟨k, v⟩ := e
    rw [insertEntry]
    split
    · rw [List.lookup_cons]
      split <;> simp_all
    split
    · next h =>
      subst h
      rw [List.lookup_cons, List.lookup_cons]
      split <;> simp_all
    · next h =>
      rw [List.lookup_cons, List.lookup_cons, ih]
      by_cases hk : key = k
      · subst hk
        simp [Ne.symm h]
      · simp [beq_eq_false_iff_ne.2 hk]

/-- **A map gives a name the value it was set to last**, and every other name the value it had. -/
theorem find?_insert {m : NameMap α} {name key : String} {value : α} :
    (m.insert name value).find? key = if key = name then some value else m.find? key :=
  lookup_insertEntry

/-- A name that comes after all the others is inserted at the end. -/
theorem insertEntry_of_lt {name : String} {value : α} {entries : List (String × α)}
    (h : ∀ key ∈ entries.map Prod.fst, key < name) :
    insertEntry name value entries = entries ++ [(name, value)] := by
  induction entries with
  | nil => rfl
  | cons e rest ih =>
    obtain ⟨k, v⟩ := e
    obtain ⟨hk, hrest⟩ := List.forall_mem_cons.1 h
    have hk : k < name := hk
    have hne : name ≠ k := by
      rintro rfl
      exact String.lt_irrefl _ hk
    rw [insertEntry, if_neg (String.lt_asymm hk), if_neg hne, ih hrest]
    rfl

/-- Entries whose names come after those of a map are appended to it, one after the other. -/
theorem entries_foldl_insert {rest : List (String × α)} {m : NameMap α}
    (h : ((m.entries ++ rest).map Prod.fst).Pairwise (· < ·)) :
    (rest.foldl (fun m (name, value) => m.insert name value) m).entries = m.entries ++ rest := by
  induction rest generalizing m with
  | nil => exact (List.append_nil _).symm
  | cons e rest ih =>
    obtain ⟨name, value⟩ := e
    have hlast : ∀ key ∈ m.entries.map Prod.fst, key < name := by
      intro key hkey
      rw [List.map_append, List.pairwise_append] at h
      exact h.2.2 key hkey name (by simp)
    have hinsert : (m.insert name value).entries = m.entries ++ [(name, value)] :=
      insertEntry_of_lt hlast
    rw [List.foldl_cons, ih (by rw [hinsert, List.append_assoc]; exact h), hinsert,
      List.append_assoc]
    rfl

/-- **A map is rebuilt from its entries.** -/
theorem ofList_entries (m : NameMap α) : ofList m.entries = m :=
  ext_entries (entries_foldl_insert (m := empty) m.sorted)

end NameMap
end JoinWizard
