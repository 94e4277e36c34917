/-
# A store is a map of what was written last

A store is written, deleted from, committed to, closed and opened again, in any order.  Whatever
came before, all it says of a name rests on what was last done under that name
(`Store.answers_by_last_write`):

| last done under the name | `load` | `loadConfig` | `origin` |
| --- | --- | --- | --- |
| nothing, or a deletion | none | none | absent |
| a record was written | the record | its configuration, in its own context | by its marks |
| a row was there that reads as a record | that record | the same | the same |
| a row was there that does not | the fault | the fault | unreadable |

One event changes what is read under its own name and under no other (`read_step`).  Opening a store
again changes nothing, for a store that is ready stays as it is (`Ready.step`).
-/

import JoinWizard.Proofs.Store
import JoinWizard.Session.Commit
import Mathlib.Data.List.Induction

namespace JoinWizard

namespace NameMap

variable {α : Type} {m : NameMap α} {name key : String}

/-- **A name that is taken out has no value**, and every other name has the value it had. -/
theorem find?_erase : (m.erase name).find? key = if key = name then none else m.find? key := by
  show (m.entries.filter (·.1 ≠ name)).lookup key = _
  exact lookup_filter_ne

/-- The names of a map are those that have a value. -/
theorem mem_names : name ∈ m.names ↔ (m.find? name).isSome := by
  rw [find?, List.lookup_isSome_iff, names, List.mem_map]
  constructor
  · rintro ⟨e, he, rfl⟩
    exact ⟨e, he, beq_self_eq_true _⟩
  · rintro ⟨e, he, h⟩
    exact ⟨e, he, (eq_of_beq h).symm⟩

end NameMap

namespace DatasourceRecord

/-- Whether the record has one of the two properties that mark what the wizard made. -/
def IsMarked (r : DatasourceRecord) : Prop :=
  (r.properties.find? "WIZARD_GENERATED_SCHEMA").isSome ∨
    (r.properties.find? "AGILE_BI_GENERATED_SCHEMA").isSome

theorem isWizardGenerated_iff (r : DatasourceRecord) : r.isWizardGenerated ↔ r.IsMarked :=
  Bool.or_eq_true _ _ ▸ Iff.rfl

end DatasourceRecord

namespace Store

variable {s : Store} {name : String}

/-- What is done to a store. -/
inductive Event where
  /-- A record is written. -/
  | save (r : DatasourceRecord)
  /-- A datasource is taken out. -/
  | delete (name : String)
  /-- A session is committed under a name, if its gates are open. -/
  | commit (session : Session) (now : Int64) (name : String)
  /-- The store is closed and opened again. -/
  | reopen

/-- The store after an event. -/
def step (s : Store) : Event → Store
  | .save r => s.save r
  | .delete name => (s.delete name).2
  | .commit session now name =>
    match session.commit (.store s) now name with
    | .ok (_, .store committed) => committed
    | _ => s
  | .reopen => s.prepare

/-- The store after a history. -/
def after (s : Store) (history : List Event) : Store := history.foldl step s

/-- What is read under a name: nothing if there is no row, or else the record of the row or the
fault in its texts. -/
def read (s : Store) (name : String) : Option (Except JsonFault DatasourceRecord) :=
  (s.rows.find? name).map (·.toRecord name)

/-- What an event makes of a name, if it is about that name: nothing, or a record. -/
def Event.on (name : String) : Event → Option (Option (Except JsonFault DatasourceRecord))
  | .save r => if name = r.name then some (some (.ok r)) else none
  | .delete deleted => if name = deleted then some none else none
  | .commit session now committed =>
    if session.gates.canComplete ∧ name = committed then
      some (some (.ok (.ofSnapshot (session.snapshot committed) now)))
    else none
  | .reopen => none

/-- What the last event about a name made of it, or what there was if no event was about it. -/
def lastWritten (before : Store) (history : List Event) (name : String) :
    Option (Except JsonFault DatasourceRecord) :=
  (history.reverse.findSome? (·.on name)).getD (before.read name)

/-! ## Steps -/

/-- A commit writes the record of the session's snapshot, if the gates are open. -/
theorem step_commit (session : Session) (now : Int64) (name : String) :
    s.step (.commit session now name) =
      if session.gates.canComplete then s.save (.ofSnapshot (session.snapshot name) now)
      else s := by
  show (match session.commit (.store s) now name with
    | .ok (_, .store committed) => committed
    | _ => s) = _
  unfold Session.commit
  cases session.gates.canComplete <;> rfl

theorem Ready.step (h : s.Ready) (e : Event) : (s.step e).Ready := by
  cases e with
  | save r => exact h
  | delete name => exact h
  | commit session now name =>
    rw [step_commit]
    split <;> exact h
  | reopen => exact ready_prepare s

theorem read_save (r : DatasourceRecord) :
    (s.save r).read name = if name = r.name then some (.ok r) else s.read name := by
  rw [read, find?_rows_save]
  split
  · next h => rw [h, Option.map_some, StoreRow.toRecord_ofRecord]
  · rfl

theorem read_delete (deleted : String) :
    (s.delete deleted).2.read name = if name = deleted then none else s.read name := by
  show ((s.rows.erase deleted).find? name).map _ = _
  rw [NameMap.find?_erase]
  split <;> rfl

/-- **An event changes what is read under the name it is about, and under no other.** -/
theorem read_step (h : s.Ready) (e : Event) :
    (s.step e).read name = (e.on name).getD (s.read name) := by
  cases e with
  | save r =>
    show (s.save r).read name = (if _ then _ else _ : Option _).getD _
    rw [read_save]
    split <;> rfl
  | delete deleted =>
    show (s.delete deleted).2.read name = (if _ then _ else _ : Option _).getD _
    rw [read_delete]
    split <;> rfl
  | commit session now committed =>
    have hname : (DatasourceRecord.ofSnapshot (session.snapshot committed) now).name = committed :=
      rfl
    rw [step_commit, Event.on]
    by_cases hgates : session.gates.canComplete = true
    · rw [if_pos hgates, read_save, hname]
      by_cases hn : name = committed <;> simp [hgates, hn]
    · simp [hgates]
  | reopen => exact congrArg (·.read name) h.prepare_eq

/-! ## Histories -/

theorem Ready.after (h : s.Ready) (history : List Event) : (s.after history).Ready := by
  induction history generalizing s with
  | nil => exact h
  | cons e history ih => exact ih (h.step e)

/-- **What is read after a history is what was last written.** -/
theorem read_after (h : s.Ready) (history : List Event) (name : String) :
    (s.after history).read name = s.lastWritten history name := by
  induction history using List.reverseRecOn with
  | nil => rfl
  | append_singleton history e ih =>
    have hsnoc : s.after (history ++ [e]) = (s.after history).step e :=
      List.foldl_append ..
    rw [hsnoc, read_step (h.after history), ih, lastWritten, lastWritten, List.reverse_append]
    show _ = (List.findSome? _ (e :: history.reverse)).getD _
    rw [List.findSome?_cons]
    cases e.on name <;> rfl

/-- A commit is the last write under its name until another event is about that name. -/
theorem lastWritten_commit {session : Session} {now : Int64}
    (hgates : session.gates.canComplete = true) (before : List Event) {later : List Event}
    (hlater : ∀ e ∈ later, e.on name = none) :
    s.lastWritten (before ++ .commit session now name :: later) name =
      some (.ok (.ofSnapshot (session.snapshot name) now)) := by
  have hlast : later.reverse.findSome? (·.on name) = none :=
    List.findSome?_eq_none_iff.2 fun e he => hlater e (List.mem_reverse.1 he)
  have hcommit : (Event.commit session now name).on name =
      some (some (.ok (.ofSnapshot (session.snapshot name) now))) := if_pos ⟨hgates, rfl⟩
  rw [lastWritten, List.reverse_append, List.reverse_cons, List.findSome?_append,
    List.findSome?_append, hlast, List.findSome?_singleton, hcommit]
  rfl

/-! ## Answers -/

theorem load_eq_read (s : Store) (name : String) :
    s.load name =
      match s.read name with
      | none => .ok none
      | some (.ok r) => .ok (some r)
      | some (.error fault) => .error (.json fault) := by
  rw [load, read]
  cases s.rows.find? name with
  | none => rfl
  | some row =>
    dsimp only [Option.map_some]
    cases row.toRecord name <;> rfl

/-- The configuration of a record is loaded in the context of the record, and in no other. -/
theorem loadConfig_of_read {r : DatasourceRecord} (h : s.read name = some (.ok r))
    (context : String) :
    s.loadConfig name context = .ok (if r.context = context then some r.config else none) := by
  have hload : s.load name = .ok (some r) := by rw [load_eq_read, h]
  rw [loadConfig, hload]
  by_cases hcontext : r.context = context <;> simp [Except.map, hcontext, Option.filter]

theorem origin_eq_read (s : Store) (name : String) :
    s.origin name =
      match s.read name with
      | none => .absent
      | some (.ok r) => if r.isWizardGenerated then .wizardGenerated else .metadata
      | some (.error fault) => .unreadable (StoreError.json fault).message := by
  rw [origin, load_eq_read]
  rcases s.read name with _ | ⟨fault | r⟩ <;> rfl

/-- A store says of every name exactly one thing: who made it, that there is none, or why it cannot
be read. -/
theorem origin_iff (s : Store) (name : String) :
    (s.origin name = .absent ↔ s.read name = none) ∧
    (s.origin name = .wizardGenerated ↔ ∃ r, s.read name = some (.ok r) ∧ r.IsMarked) ∧
    (s.origin name = .metadata ↔ ∃ r, s.read name = some (.ok r) ∧ ¬r.IsMarked) ∧
    ∀ reason, s.origin name = .unreadable reason ↔
      ∃ fault, s.read name = some (.error fault) ∧ (StoreError.json fault).message = reason := by
  rw [origin_eq_read]
  rcases s.read name with _ | ⟨fault | r⟩
  · simp
  · simp
  · have hmark := r.isWizardGenerated_iff
    cases h : r.isWizardGenerated <;> simp [h, ← hmark]

/-- **All that a store says of a name rests on what was last done under it**, whatever was done
under other names in between. -/
theorem answers_by_last_write (s : Store) (history : List Event) (name : String) :
    let store := s.prepare.after history
    let last := s.prepare.lastWritten history name
    (store.load name =
      match last with
      | none => .ok none
      | some (.ok r) => .ok (some r)
      | some (.error fault) => .error (.json fault)) ∧
    (store.delete name).1 = last.isSome ∧
    store.names.Pairwise (· < ·) ∧ (name ∈ store.names ↔ last.isSome) ∧
    (∀ context, last = none → store.loadConfig name context = .ok none) ∧
    (∀ context r, last = some (.ok r) →
      store.loadConfig name context = .ok (if r.context = context then some r.config else none)) ∧
    (store.origin name = .absent ↔ last = none) ∧
    (store.origin name = .wizardGenerated ↔ ∃ r, last = some (.ok r) ∧ r.IsMarked) ∧
    (store.origin name = .metadata ↔ ∃ r, last = some (.ok r) ∧ ¬r.IsMarked) ∧
    ∀ reason, store.origin name = .unreadable reason ↔
      ∃ fault, last = some (.error fault) ∧ (StoreError.json fault).message = reason := by
  intro store last
  have hread : store.read name = last := read_after (ready_prepare s) history name
  have hrow : (store.rows.find? name).isSome = last.isSome := by
    rw [← hread, read, Option.isSome_map]
  refine ⟨hread ▸ load_eq_read store name, hrow, store.rows.sorted, ?_, ?_, ?_,
    hread ▸ origin_iff store name⟩
  · exact NameMap.mem_names.trans (by rw [hrow])
  · intro context hlast
    rw [loadConfig, load_eq_read, hread, hlast]
    rfl
  · intro context r hlast
    exact loadConfig_of_read (hread.trans hlast) context

end Store
end JoinWizard
