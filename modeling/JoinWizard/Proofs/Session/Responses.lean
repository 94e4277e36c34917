/-
# What a response does

A response is stale, or it fails, or it brings what was asked for; which of the three follows from
its generation and its result.  The lemmas of this module say for each of them what becomes of the
refresh, and of the whole session, so that a statement about responses is settled in three cases.

| response | refresh | session |
| --- | --- | --- |
| of another generation | unchanged | unchanged, and the host is told nothing |
| a failure | `failed`, with the error kept | the error, then the gates |
| schemas | `schemasReady`, one of them selected | the gates |
| tables | `tablesReady` | a new catalog, a pending configuration restored, then the gates |
-/

import JoinWizard.Session.Fetch

namespace JoinWizard
namespace Refresh

variable {r : Refresh}

theorem isCurrent_iff {generation : Nat} :
    r.isCurrent generation = true ↔ generation = r.generation :=
  decide_eq_true_iff

theorem acceptSchemas_of_stale {response : SchemaResponse}
    (h : r.isCurrent response.generation = false) : r.acceptSchemas response = (r, .stale) := by
  rw [acceptSchemas, if_neg (by simp [h])]

theorem acceptSchemas_of_error {response : SchemaResponse} {cause : SourceError}
    (h : r.isCurrent response.generation = true) (hr : response.result = .error cause) :
    r.acceptSchemas response =
      (r.fail (.ofSchemas response.connection cause),
        .failed (.ofSchemas response.connection cause)) := by
  rw [acceptSchemas, if_pos h, hr]

theorem acceptSchemas_of_ok {response : SchemaResponse} {schemas : List SchemaInfo}
    (h : r.isCurrent response.generation = true) (hr : response.result = .ok schemas) :
    r.acceptSchemas response =
      ({ r with
          selectedSchema := r.chooseSchema schemas
          schemas
          state := .schemasReady
          lastError := none },
        .current schemas) := by
  rw [acceptSchemas, if_pos h, hr]

theorem acceptTables_of_stale {response : TableResponse}
    (h : r.isCurrent response.generation = false) : r.acceptTables response = (r, .stale) := by
  rw [acceptTables, if_neg (by simp [h])]

theorem acceptTables_of_error {response : TableResponse} {cause : SourceError}
    (h : r.isCurrent response.generation = true) (hr : response.result = .error cause) :
    r.acceptTables response =
      (r.fail (.ofTables response.schema cause), .failed (.ofTables response.schema cause)) := by
  rw [acceptTables, if_pos h, hr]

theorem acceptTables_of_ok {response : TableResponse} {tables : List Table}
    (h : r.isCurrent response.generation = true) (hr : response.result = .ok tables) :
    r.acceptTables response =
      ({ r with state := .tablesReady, lastError := none }, .current tables) := by
  rw [acceptTables, if_pos h, hr]

/-- **A response with schemas is stale exactly if it is of another generation.** -/
theorem acceptSchemas_ne_stale_iff {response : SchemaResponse} :
    (r.acceptSchemas response).2 ≠ .stale ↔ r.isCurrent response.generation = true := by
  cases h : r.isCurrent response.generation with
  | false => simp [acceptSchemas_of_stale h]
  | true =>
    cases hr : response.result with
    | error cause => simp [acceptSchemas_of_error h hr]
    | ok schemas => simp [acceptSchemas_of_ok h hr]

/-- **A response with tables is stale exactly if it is of another generation.** -/
theorem acceptTables_ne_stale_iff {response : TableResponse} :
    (r.acceptTables response).2 ≠ .stale ↔ r.isCurrent response.generation = true := by
  cases h : r.isCurrent response.generation with
  | false => simp [acceptTables_of_stale h]
  | true =>
    cases hr : response.result with
    | error cause => simp [acceptTables_of_error h hr]
    | ok tables => simp [acceptTables_of_ok h hr]

end Refresh

namespace Session

variable {s : Session}

theorem applySchemas_of_stale {response : SchemaResponse}
    (h : s.refresh.isCurrent response.generation = false) :
    s.applySchemas response = s.silently .stale := by
  rw [applySchemas, Refresh.acceptSchemas_of_stale h]

theorem applySchemas_of_error {response : SchemaResponse} {cause : SourceError}
    (h : s.refresh.isCurrent response.generation = true) (hr : response.result = .error cause) :
    s.applySchemas response =
      { s with refresh := s.refresh.fail (.ofSchemas response.connection cause) }.publish
        [.error (.ofSchemas response.connection cause)]
        (.failed (.ofSchemas response.connection cause)) := by
  rw [applySchemas, Refresh.acceptSchemas_of_error h hr]

theorem applySchemas_of_ok {response : SchemaResponse} {schemas : List SchemaInfo}
    (h : s.refresh.isCurrent response.generation = true) (hr : response.result = .ok schemas) :
    s.applySchemas response =
      { s with refresh := { s.refresh with
          selectedSchema := s.refresh.chooseSchema schemas
          schemas
          state := .schemasReady
          lastError := none } }.publish [] (.current schemas) := by
  rw [applySchemas, Refresh.acceptSchemas_of_ok h hr]

theorem applyTables_of_stale {response : TableResponse}
    (h : s.refresh.isCurrent response.generation = false) :
    s.applyTables response = s.silently .stale := by
  rw [applyTables, Refresh.acceptTables_of_stale h]

theorem applyTables_of_error {response : TableResponse} {cause : SourceError}
    (h : s.refresh.isCurrent response.generation = true) (hr : response.result = .error cause) :
    s.applyTables response =
      { s with refresh := s.refresh.fail (.ofTables response.schema cause) }.publish
        [.hideBusy, .error (.ofTables response.schema cause)]
        (.failed (.ofTables response.schema cause)) := by
  rw [applyTables, Refresh.acceptTables_of_error h hr]

/-- The session with the tables of a response for its catalog, before the host is told. -/
def takeTables (s : Session) (asked : String) (tables : List Table) : Session :=
  ({ s with refresh := { s.refresh with state := .tablesReady, lastError := none } }.installCatalog
    (.ofTables (schemaLabel asked tables) tables)).restorePending

theorem applyTables_of_ok {response : TableResponse} {tables : List Table}
    (h : s.refresh.isCurrent response.generation = true) (hr : response.result = .ok tables) :
    s.applyTables response =
      (s.takeTables response.schema tables).publish [.hideBusy] (.current tables) := by
  rw [applyTables, Refresh.acceptTables_of_ok h hr]
  rfl

/-- **A response brings tables exactly if** it is of the latest generation and holds them. -/
theorem applyTables_current_iff {response : TableResponse} {tables : List Table} :
    (s.applyTables response).result = .current tables ↔
      s.refresh.isCurrent response.generation = true ∧ response.result = .ok tables := by
  constructor
  · intro h
    cases hc : s.refresh.isCurrent response.generation with
    | false =>
      rw [applyTables_of_stale hc] at h
      cases h
    | true =>
      cases hr : response.result with
      | error cause =>
        rw [applyTables_of_error hc hr] at h
        cases h
      | ok found =>
        rw [applyTables_of_ok hc hr] at h
        cases h
        exact ⟨rfl, rfl⟩
  · rintro ⟨hc, hr⟩
    rw [applyTables_of_ok hc hr]
    rfl

/-- What becomes of a response is what becomes of it in the refresh. -/
theorem result_applySchemas (s : Session) (response : SchemaResponse) :
    (s.applySchemas response).result = (s.refresh.acceptSchemas response).2 := by
  unfold applySchemas
  obtain ⟨refresh, accepted⟩ := s.refresh.acceptSchemas response
  cases accepted <;> rfl

theorem result_applyTables (s : Session) (response : TableResponse) :
    (s.applyTables response).result = (s.refresh.acceptTables response).2 := by
  unfold applyTables
  obtain ⟨refresh, accepted⟩ := s.refresh.acceptTables response
  cases accepted <;> rfl

end Session
end JoinWizard
