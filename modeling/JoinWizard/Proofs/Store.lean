/-
# What a store keeps is what it gives back

A row holds the texts of a record's configuration and properties, and a record is read back from
its row as it was (`StoreRow.toRecord_ofRecord`).  So a store gives back the record that was
written last under a name, and its configuration in the record's own context, for as long as the
row stays.

Opening a store makes it *ready*, which is a matter of its version alone; and a ready store is not
changed by being opened (`Store.Ready.prepare_eq`).
-/

import JoinWizard.Proofs.Json.Codec
import JoinWizard.Store

namespace JoinWizard

/-- **A record is read back from its row.** -/
theorem StoreRow.toRecord_ofRecord (r : DatasourceRecord) :
    (StoreRow.ofRecord r).toRecord r.name = .ok r := by
  simp only [toRecord, ofRecord, ofJsonText_toJsonText]
  rfl

namespace Store

variable {s : Store} {r : DatasourceRecord} {name : String}

/-- A written record stands under its name, and every other row is as it was. -/
theorem find?_rows_save :
    (s.save r).rows.find? name = if name = r.name then some (.ofRecord r) else s.rows.find? name :=
  NameMap.find?_insert

/-- A record is loaded from its row. -/
theorem load_of_row (h : s.rows.find? r.name = some (.ofRecord r)) :
    s.load r.name = .ok (some r) := by
  rw [load, h]
  simp only [StoreRow.toRecord_ofRecord]

/-- A record's configuration is loaded from its row in the context of the record. -/
theorem loadConfig_of_row (h : s.rows.find? r.name = some (.ofRecord r)) :
    s.loadConfig r.name r.context = .ok (some r.config) := by
  have hkept : (some r).filter (fun r' => r'.context = r.context) = some r :=
    Option.filter_some_pos (decide_eq_true rfl)
  rw [loadConfig, load_of_row h, Except.map, hkept]
  rfl

/-! ## Opening -/

/-- Whether a store has the version of the rows that are written. -/
def Ready (s : Store) : Prop := s.version.map versionOf = some currentVersion

theorem ready_prepare (s : Store) : s.prepare.Ready := by
  have hstamp : versionOf (toString currentVersion) = currentVersion := by decide
  unfold prepare
  cases hversion : s.version with
  | none => exact congrArg some hstamp
  | some v =>
    dsimp only
    split
    · next hv => exact (congrArg (Option.map versionOf) hversion).trans (congrArg some hv)
    · exact congrArg some hstamp

/-- **A store that is ready stays as it is when it is opened.** -/
theorem Ready.prepare_eq (h : s.Ready) : s.prepare = s := by
  obtain ⟨v, hversion, hv⟩ := Option.map_eq_some_iff.1 h
  rw [prepare, hversion]
  exact if_pos hv

end Store
end JoinWizard
