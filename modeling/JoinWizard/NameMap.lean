/-
# Maps from names

A finite map whose keys are names, kept in increasing order of the names: equal maps have equal
entries, and the order in which they are listed depends on nothing but the names.
-/

import JoinWizard.Json.Basic

namespace JoinWizard

/-- A finite map from names, as its entries in increasing order. -/
structure NameMap (α : Type) where
  entries : List (String × α)
  sorted : (entries.map Prod.fst).Pairwise (· < ·)

namespace NameMap

variable {α : Type}

/-- The map without entries. -/
def empty : NameMap α := ⟨[], .nil⟩

instance : Inhabited (NameMap α) := ⟨empty⟩

instance [DecidableEq α] : DecidableEq (NameMap α) := fun a b =>
  decidable_of_iff (a.entries = b.entries) (by cases a; cases b; simp)

/-- Sets a name's value in a sorted list of entries. -/
def insertEntry (name : String) (value : α) : List (String × α) → List (String × α)
  | [] => [(name, value)]
  | (key, v) :: rest =>
    if name < key then (name, value) :: (key, v) :: rest
    else if name = key then (name, value) :: rest
    else (key, v) :: insertEntry name value rest

theorem mem_keys_insertEntry {name key : String} {value : α} {entries : List (String × α)} :
    key ∈ (insertEntry name value entries).map Prod.fst ↔
      key = name ∨ key ∈ entries.map Prod.fst := by
  induction entries with
  | nil => simp [insertEntry]
  | cons e rest ih =>
    obtain ⟨k, v⟩ := e
    simp only [insertEntry]
    split
    · simp
    · split
      · next h => simp [h]
      · simp only [List.map_cons, List.mem_cons, ih]
        grind

theorem insertEntry_sorted (name : String) (value : α) {entries : List (String × α)}
    (h : (entries.map Prod.fst).Pairwise (· < ·)) :
    ((insertEntry name value entries).map Prod.fst).Pairwise (· < ·) := by
  induction entries with
  | nil => simp [insertEntry]
  | cons e rest ih =>
    obtain ⟨k, v⟩ := e
    simp only [List.map_cons, List.pairwise_cons] at h
    simp only [insertEntry]
    split
    · next hlt =>
      simp only [List.map_cons, List.pairwise_cons, List.mem_cons, forall_eq_or_imp]
      exact ⟨⟨hlt, fun x hx => String.lt_trans hlt (h.1 x hx)⟩, h⟩
    · next hge =>
      split
      · next heq => simpa [heq] using h
      · next hne =>
        simp only [List.map_cons, List.pairwise_cons]
        refine ⟨fun x hx => ?_, ih h.2⟩
        rcases mem_keys_insertEntry.1 hx with rfl | hx
        · exact Std.lt_of_le_of_ne (String.not_lt.1 hge) (Ne.symm hne)
        · exact h.1 x hx

/-- The map with a name's value set. -/
def insert (m : NameMap α) (name : String) (value : α) : NameMap α :=
  ⟨insertEntry name value m.entries, insertEntry_sorted name value m.sorted⟩

/-- The value of a name. -/
def find? (m : NameMap α) (name : String) : Option α := m.entries.lookup name

/-- Whether a name has a value. -/
def contains (m : NameMap α) (name : String) : Bool := (m.find? name).isSome

/-- The map without a name. -/
def erase (m : NameMap α) (name : String) : NameMap α where
  entries := m.entries.filter (·.1 ≠ name)
  sorted := m.sorted.sublist (List.filter_sublist.map Prod.fst)

/-- The names that have a value, in increasing order. -/
def names (m : NameMap α) : List String := m.entries.map Prod.fst

/-- The map of a list of entries; of several entries of one name, the last. -/
def ofList (entries : List (String × α)) : NameMap α :=
  entries.foldl (fun m (name, value) => m.insert name value) empty

/-- A map is written as an object.  When it is read, every key has to be a text, and of several
values of one key the last counts. -/
instance [JsonCodec α] : JsonCodec (NameMap α) where
  encode m := .object (m.entries.map fun (name, value) => (some name, encode value))
  decode
    | .object members => do
      let entries ← members.mapM fun (key, value) => return (← key, ← decode value)
      return ofList entries
    | _ => none

end NameMap

end JoinWizard
