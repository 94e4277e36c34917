/-
# What lasts until tables arrive

A session has a catalog, and perhaps a configuration it was started with that waits for tables.
Nothing but the arrival of tables and a switch of the connection touches either of them
(`Session.lasts_act`), so they are as they were after any history without both
(`Session.lasts_after`).
-/

import JoinWizard.Session.Action
import JoinWizard.Proofs.Session.Responses

namespace JoinWizard
namespace Session

variable {s t : Session} {history : List Action}

/-- What the actions of a history give back, in order. -/
def replies (s : Session) : List Action → List Reply
  | [] => []
  | a :: history => (s.act a).result :: (s.act a).session.replies history

/-- Whether what waits for tables, and what came of them, is the same in two sessions. -/
structure Lasts (s t : Session) : Prop where
  catalog : t.catalog = s.catalog
  pending : t.pending = s.pending

theorem Lasts.refl (s : Session) : s.Lasts s := ⟨rfl, rfl⟩

theorem Lasts.trans {u : Session} (h : s.Lasts t) (h' : t.Lasts u) : s.Lasts u :=
  ⟨h'.catalog.trans h.catalog, h'.pending.trans h.pending⟩

theorem lasts_publishIfChanged {α : Type} (h : s.Lasts t) (before : List Notice) (result : α) :
    s.Lasts (t.publishIfChanged before result).session := by
  unfold publishIfChanged
  split
  · exact h
  · exact ⟨h.catalog, h.pending⟩

theorem lasts_requestTablesOf (s : Session) (schema : Option String) :
    s.Lasts (s.requestTablesOf schema).session := by
  refine lasts_publishIfChanged ?_ _ _
  exact ⟨rfl, rfl⟩

theorem lasts_requestSchemas (s : Session) : s.Lasts s.requestSchemas.session := by
  refine lasts_publishIfChanged ?_ _ _
  exact ⟨rfl, rfl⟩

theorem lasts_activateForward (s : Session) : s.Lasts s.activateForward.session := by
  have hentered : s.Lasts (({ s with activated := true } : Session).publish [] ()).session :=
    ⟨rfl, rfl⟩
  unfold activateForward Turn.andThen
  dsimp only
  split
  · exact hentered.trans (lasts_requestTablesOf _ none)
  · exact hentered

theorem lasts_selectSchema (s : Session) (schema : String) :
    s.Lasts (s.selectSchema schema).session := by
  unfold selectSchema
  split
  · exact lasts_requestTablesOf s (some schema)
  · exact ⟨rfl, rfl⟩

theorem lasts_applySchemas (s : Session) (response : SchemaResponse) :
    s.Lasts (s.applySchemas response).session := by
  unfold applySchemas
  dsimp only
  split <;> exact ⟨rfl, rfl⟩

/-- A response that brings no tables leaves all as it is. -/
theorem lasts_applyTables {response : TableResponse}
    (h : ∀ tables, (s.applyTables response).result ≠ .current tables) :
    s.Lasts (s.applyTables response).session := by
  cases hc : s.refresh.isCurrent response.generation with
  | false =>
    rw [applyTables_of_stale hc]
    exact .refl s
  | true =>
    cases hr : response.result with
    | error cause =>
      rw [applyTables_of_error hc hr]
      exact ⟨rfl, rfl⟩
    | ok tables =>
      rw [applyTables_of_ok hc hr] at h
      exact absurd rfl (h tables)

/-- **An action that neither switches the connection nor brings tables leaves all as it is.** -/
theorem lasts_act {a : Action} (hswitch : ∀ connection, a ≠ .setConnection connection)
    (hnone : ∀ tables, (s.act a).result ≠ .tables (.current tables)) :
    s.Lasts (s.act a).session := by
  cases a with
  | addTables names => exact ⟨rfl, rfl⟩
  | removeTables names =>
    show s.Lasts (s.removeTables names).session
    unfold removeTables
    split <;> exact ⟨rfl, rfl⟩
  | addJoin j =>
    show s.Lasts (s.addJoin j).session
    unfold addJoin
    split <;> exact ⟨rfl, rfl⟩
  | removeJoin j =>
    show s.Lasts (s.removeJoin j).session
    unfold removeJoin
    split <;> exact ⟨rfl, rfl⟩
  | setFact name => exact ⟨rfl, rfl⟩
  | pickFact index => exact ⟨rfl, rfl⟩
  | setMode mode => exact ⟨rfl, rfl⟩
  | activateForward => exact s.lasts_activateForward
  | activateReverse => exact ⟨rfl, rfl⟩
  | setConnection connection => exact absurd rfl (hswitch connection)
  | selectSchema schema => exact s.lasts_selectSchema schema
  | requestSchemas => exact s.lasts_requestSchemas
  | requestTables => exact s.lasts_requestTablesOf none
  | applySchemas response => exact s.lasts_applySchemas response
  | applyTables response =>
    refine lasts_applyTables fun tables h => hnone tables ?_
    show Reply.tables (s.applyTables response).result = _
    rw [h]

/-- **All lasts over a history** without a switch and without tables. -/
theorem lasts_after (hswitch : ∀ connection, Action.setConnection connection ∉ history)
    (hnone : ∀ tables, Reply.tables (.current tables) ∉ s.replies history) :
    s.Lasts (s.after history) := by
  induction history generalizing s with
  | nil => exact .refl s
  | cons a history ih =>
    have hact : s.Lasts (s.act a).session := by
      refine lasts_act (fun connection h => ?_) fun tables h => ?_
      · exact hswitch connection (h ▸ List.mem_cons_self ..)
      · exact hnone tables (h ▸ List.mem_cons_self ..)
    refine hact.trans (ih (s := (s.act a).session) (fun connection h => ?_) fun tables h => ?_)
    · exact hswitch connection (List.mem_cons_of_mem _ h)
    · exact hnone tables (List.mem_cons_of_mem _ h)

end Session
end JoinWizard
