/-
# What the host is told

The host follows the gates by the notices of them alone, so a session must never let the gates move
without a notice, nor send a pair that is not the one it ends with.  A turn that does neither is
`Disciplined`: it sends at most one pair, which is that of its final session, closed while the
refresh has failed and else that of selection, fact table and mode; if it sends none that pair is as
before; and an error is followed by closed gates and by nothing else.

Every single operation is disciplined (`disciplined_act`).  Two of them need more than their own
text.  Going forward publishes and may then ask for tables, which leaves a failed refresh; the
second notice that could cause never comes, because tables are asked for only under an empty
catalog, and over an empty catalog nothing can be selected.  Selecting a schema sends nothing before
the step is entered, and may do so because it neither enters nor leaves a failed refresh.

So the pair the host was told last is that of the model, at any time (`published_after`).  As a
consistent model finds the fact table it has the name of, the host can read off it what is selected:

| the refresh has | the mode is | `valid` | `finishable` |
| --- | --- | --- | --- |
| failed | any | closed | closed |
| not failed | flat | two tables or more | one table |
| not failed | star | two tables or more, and a fact table | one table, or a fact table |
-/

import JoinWizard.Proofs.Session.Consistent
import JoinWizard.Proofs.Session.Responses

namespace JoinWizard
namespace Notice

/-- The pair that a notice of the gates carries. -/
def gates? : Notice → Option Gates
  | gates g => some g
  | _ => none

/-- The pairs of gates among some notices, in order. -/
def sentGates (notices : List Notice) : List Gates := notices.filterMap gates?

/-- The gates as the host knows them after some notices: closed until it is told of them. -/
def lastGates (notices : List Notice) : Gates := (sentGates notices).getLast?.getD .blocked

/-- Only the busy indication is touched. -/
def OnlyBusy (notices : List Notice) : Prop := ∀ n ∈ notices, n = .showBusy ∨ n = .hideBusy

variable {before : List Notice}

theorem onlyBusy_nil : OnlyBusy [] := fun _ h => absurd h List.not_mem_nil

theorem onlyBusy_showBusy : OnlyBusy [.showBusy] := fun _ h => .inl (List.mem_singleton.1 h)

theorem onlyBusy_hideBusy : OnlyBusy [.hideBusy] := fun _ h => .inr (List.mem_singleton.1 h)

theorem OnlyBusy.sentGates_eq_nil (h : OnlyBusy before) : sentGates before = [] := by
  refine List.filterMap_eq_nil_iff.2 fun n hn => ?_
  rcases h n hn with rfl | rfl <;> rfl

theorem OnlyBusy.error_not_mem (h : OnlyBusy before) (e : HostError) : .error e ∉ before := by
  intro he
  rcases h _ he with hb | hb <;> cases hb

theorem sentGates_append (ms ns : List Notice) :
    sentGates (ms ++ ns) = sentGates ms ++ sentGates ns := List.filterMap_append

end Notice

open Notice

/-- A turn from `s` that tells the host of the gates as it must. -/
structure Turn.Disciplined {α : Type} (s : Session) (t : Turn α) : Prop where
  at_most_one : (sentGates t.notices).length ≤ 1
  /-- What is sent is blocked after a failed refresh, and else the gates of the final model. -/
  sent_final : ∀ g ∈ sentGates t.notices, g =
    if t.session.refresh.state = .failed then .blocked
    else .ofModel t.session.selection t.session.fact t.session.mode
  /-- If nothing is sent, that pair is the same after the turn as it was before. -/
  unsent_same : sentGates t.notices = [] →
    (if t.session.refresh.state = .failed then Gates.blocked
      else .ofModel t.session.selection t.session.fact t.session.mode) =
    if s.refresh.state = .failed then .blocked else .ofModel s.selection s.fact s.mode
  error_then_blocked : ∀ before e rest, t.notices = before ++ .error e :: rest →
    rest = [.gates .blocked]
  /-- The session remembers the pair it sent. -/
  remembered : t.session.published = (sentGates t.notices).getLast?.getD s.published

/-- The gates that were published last are those of the model. -/
def Session.UpToDate (s : Session) : Prop := s.published = s.gates

namespace Turn

variable {α β : Type} {s s' : Session} {before : List Notice} {t : Turn α}

theorem Disciplined.map (h : t.Disciplined s) (f : α → β) : (t.map f).Disciplined s :=
  ⟨h.at_most_one, h.sent_final, h.unsent_same, h.error_then_blocked, h.remembered⟩

/-- Doing nothing is disciplined. -/
theorem disciplined_silently (s : Session) (result : α) : (s.silently result).Disciplined s where
  at_most_one := Nat.zero_le 1
  sent_final _ h := absurd h List.not_mem_nil
  unsent_same _ := rfl
  error_then_blocked before e rest h := by
    have hmem : Notice.error e ∈ ([] : List Notice) :=
      (show [] = _ from h) ▸ List.mem_append_right before (List.mem_cons_self ..)
    exact absurd hmem List.not_mem_nil
  remembered := rfl

/-- **Publishing is disciplined,** after notices of which at most the last is an error, and then
only with the gates closed. -/
theorem disciplined_publish (s s' : Session) (result : α) (hs : sentGates before = [])
    (he : ∀ ns e rest, before = ns ++ .error e :: rest → rest = [] ∧ s'.gates = .blocked) :
    (s'.publish before result).Disciplined s := by
  have hsent : sentGates (s'.publish before result).notices = [s'.gates] := by
    change sentGates (before ++ [.gates s'.gates]) = _
    rw [sentGates_append, hs]
    rfl
  refine ⟨?_, fun g hg => ?_, fun h => ?_, fun ns e rest h => ?_, by rw [hsent]; rfl⟩
  · rw [hsent]
    exact Nat.le_refl 1
  · rw [hsent] at hg
    exact List.mem_singleton.1 hg
  · rw [hsent] at h
    cases h
  · change before ++ [.gates s'.gates] = ns ++ .error e :: rest at h
    rcases List.eq_nil_or_concat rest with rfl | ⟨rest, n, rfl⟩
    · have := (List.append_inj' h rfl).2
      cases this
    · rw [List.concat_eq_append, ← List.cons_append, ← List.append_assoc] at h
      obtain ⟨hb, hn⟩ := List.append_inj' h rfl
      obtain ⟨rfl, hg⟩ := he ns e rest hb
      rw [List.concat_eq_append, List.nil_append, ← hn, hg]

theorem disciplined_publish_onlyBusy (s s' : Session) (result : α) (h : OnlyBusy before) :
    (s'.publish before result).Disciplined s :=
  disciplined_publish s s' result h.sentGates_eq_nil fun ns e _ hb =>
    absurd (hb ▸ List.mem_append_right ns (List.mem_cons_self ..)) (h.error_not_mem e)

/-- **Publishing on a change is disciplined** if it starts from gates that are up to date. -/
theorem disciplined_publishIfChanged (hs : s.UpToDate) (s' : Session)
    (hp : s'.published = s.published) (result : α) (h : OnlyBusy before) :
    (s'.publishIfChanged before result).Disciplined s := by
  unfold Session.publishIfChanged
  split
  · next hg =>
    refine ⟨?_, fun g hg => ?_, fun _ => (hg.trans hp).trans hs, fun ns e rest hb => ?_, ?_⟩
    · simp [h.sentGates_eq_nil]
    · simp [h.sentGates_eq_nil] at hg
    · have hb : before = ns ++ .error e :: rest := hb
      exact absurd (hb ▸ List.mem_append_right ns (List.mem_cons_self ..)) (h.error_not_mem e)
    · simpa [h.sentGates_eq_nil] using hp
  · exact disciplined_publish_onlyBusy s s' result h

/-- **A disciplined turn keeps the published gates up to date.** -/
theorem Disciplined.upToDate (h : t.Disciplined s) (hs : s.UpToDate) : t.session.UpToDate := by
  unfold Session.UpToDate
  rw [h.remembered]
  cases hg : (sentGates t.notices).getLast? with
  | none => exact hs.trans (h.unsent_same (List.getLast?_eq_none_iff.1 hg)).symm
  | some g => exact h.sent_final g (List.mem_of_getLast? hg)

end Turn

namespace Session

variable {α : Type} {s : Session}

theorem upToDate_publish (s : Session) (before : List Notice) (result : α) :
    (s.publish before result).session.UpToDate := rfl

/-! ## Gates of a model -/

/-- Nothing selected closes both gates. -/
theorem gates_of_selection_nil (h : s.selection.tables = []) : s.gates = .blocked := by
  unfold gates
  split
  · rfl
  · simp [Gates.ofModel, Gates.evaluate, Selection.size, h, Gates.blocked]

theorem gates_of_failed (h : s.refresh.state = .failed) : s.gates = .blocked := if_pos h

/-- Which gates are open, by what is selected and chosen. -/
theorem valid_gates_iff (hc : s.Consistent) :
    s.gates.valid = true ↔ s.refresh.state ≠ .failed ∧ 1 < s.selection.size ∧
      (s.mode = .star → s.fact.name ≠ none) := by
  by_cases hf : s.refresh.state = .failed
  · simp [gates_of_failed hf, Gates.blocked, hf]
  · rw [gates, if_neg hf, Gates.ofModel, hc.isSome_table?]
    simp [Gates.evaluate, Mode.isStar, hf, Option.isSome_iff_ne_none, ← Decidable.imp_iff_not_or]

theorem finishable_gates_iff (hc : s.Consistent) :
    s.gates.finishable = true ↔ s.refresh.state ≠ .failed ∧
      (s.selection.size = 1 ∨ s.mode = .star ∧ s.fact.name ≠ none) := by
  by_cases hf : s.refresh.state = .failed
  · simp [gates_of_failed hf, Gates.blocked, hf]
  · rw [gates, if_neg hf, Gates.ofModel, hc.isSome_table?]
    simp only [Gates.evaluate, Mode.isStar, Bool.or_eq_true, Bool.and_eq_true, decide_eq_true_eq,
      Option.isSome_iff_ne_none, and_assoc]
    -- The gate counts the tables beside a fact table, which is one of them.
    have hsize : s.fact.name ≠ none → s.selection.size ≥ 1 := hc.size_pos
    rw [and_iff_left_of_imp hsize, and_iff_right hf]

/-- The gates depend on the refresh by its failure alone. -/
theorem gates_congr_refresh {r : Refresh} (h : r.state = .failed ↔ s.refresh.state = .failed) :
    ({ s with refresh := r } : Session).gates = s.gates := by
  unfold gates
  by_cases hf : s.refresh.state = .failed
  · rw [if_pos (h.2 hf), if_pos hf]
  · rw [if_neg (fun hr => hf (h.1 hr)), if_neg hf]

theorem onlyBusy_busyEnd (s : Session) : OnlyBusy s.busyEnd := by
  unfold busyEnd
  split
  · exact onlyBusy_hideBusy
  · exact onlyBusy_nil

end Session

/-- Selecting a schema neither enters nor leaves a failed refresh. -/
theorem Refresh.selectSchema_failed_iff (r : Refresh) (schema : String) :
    (r.selectSchema schema).state = .failed ↔ r.state = .failed := by
  unfold selectSchema isFetchingTables
  split
  · next h =>
    rw [decide_eq_true_eq] at h
    rw [h]
    dsimp only
    split <;> decide
  · rfl

namespace Session

variable {α : Type} {s : Session}

open Turn

/-! ## The operations that take more than their ending -/

theorem disciplined_requestTablesOf (hs : s.UpToDate) (schema : Option String) :
    (s.requestTablesOf schema).Disciplined s :=
  disciplined_publishIfChanged hs { s with refresh := (s.refresh.requestTables schema).1 } rfl _
    onlyBusy_showBusy

theorem disciplined_requestSchemas (hs : s.UpToDate) : s.requestSchemas.Disciplined s :=
  disciplined_publishIfChanged hs { s with refresh := s.refresh.requestSchemas.1 } rfl _
    s.onlyBusy_busyEnd

/-- A request for tables over an empty selection moves no gate, so it publishes nothing. -/
theorem requestTables_of_selection_nil (hs : s.UpToDate) (h : s.selection.tables = []) :
    s.requestTables =
      ⟨{ s with refresh := (s.refresh.requestTables none).1 }, [.showBusy],
        (s.refresh.requestTables none).2⟩ := by
  have hg : ({ s with refresh := (s.refresh.requestTables none).1 } : Session).gates =
      s.published := by
    rw [gates_of_selection_nil (s := { s with refresh := (s.refresh.requestTables none).1 }) h,
      hs, gates_of_selection_nil h]
  exact if_pos hg

/-- **Going forward sends one pair,** although it may ask for tables after it has published. -/
theorem disciplined_activateForward (hc : s.Consistent) : s.activateForward.Disciplined s := by
  have hp := disciplined_publish_onlyBusy (α := Unit) s { s with activated := true } () onlyBusy_nil
  set p := ({ s with activated := true } : Session).publish [] () with hpdef
  unfold activateForward Turn.andThen
  rw [← hpdef]
  dsimp only
  split
  · next hask =>
    rw [Bool.and_eq_true] at hask
    have hempty : p.session.selection.tables = [] :=
      hc.selection_eq_nil (List.isEmpty_iff.1 hask.1)
    rw [requestTables_of_selection_nil (upToDate_publish _ _ _) hempty]
    have hgates : ({ p.session with refresh := (p.session.refresh.requestTables none).1 } :
        Session).gates = p.session.gates := by
      rw [gates_of_selection_nil hempty]
      exact gates_of_selection_nil hempty
    refine ⟨?_, fun g hg => ?_, fun h => ?_, fun ns e rest h => ?_, rfl⟩
    · exact Nat.le_refl 1
    · exact (hp.sent_final g hg).trans hgates.symm
    · cases h
    · have hmem : Notice.error e ∈ [Notice.gates p.session.gates, .showBusy] :=
        (show [Notice.gates p.session.gates, .showBusy] = _ from h) ▸
          List.mem_append_right ns (List.mem_cons_self ..)
      simp at hmem
  · have happ : p.notices ++ (p.session.silently (none : Option TableTicket)).notices = p.notices :=
      List.append_nil _
    exact ⟨happ ▸ hp.at_most_one, happ ▸ hp.sent_final, happ ▸ hp.unsent_same,
      happ ▸ hp.error_then_blocked, happ ▸ hp.remembered⟩

/-- **Selecting a schema moves no gate** before the step is entered, and is a request after. -/
theorem disciplined_selectSchema (hs : s.UpToDate) (schema : String) :
    (s.selectSchema schema).Disciplined s := by
  unfold selectSchema
  split
  · exact (disciplined_requestTablesOf hs (some schema)).map some
  · have hb := s.onlyBusy_busyEnd
    refine ⟨?_, fun g hg => ?_, fun _ => ?_, fun ns e rest h => ?_, ?_⟩
    · simp [hb.sentGates_eq_nil]
    · simp [hb.sentGates_eq_nil] at hg
    · exact gates_congr_refresh (s.refresh.selectSchema_failed_iff schema)
    · have h : s.busyEnd = ns ++ .error e :: rest := h
      exact absurd (h ▸ List.mem_append_right ns (List.mem_cons_self ..)) (hb.error_not_mem e)
    · simp [hb.sentGates_eq_nil]

theorem disciplined_applySchemas (s : Session) (response : SchemaResponse) :
    (s.applySchemas response).Disciplined s := by
  cases h : s.refresh.isCurrent response.generation with
  | false =>
    rw [applySchemas_of_stale h]
    exact disciplined_silently s _
  | true =>
    cases hr : response.result with
    | error cause =>
      rw [applySchemas_of_error h hr]
      refine disciplined_publish _ _ _ rfl fun ns e _ hb => ⟨?_, gates_of_failed rfl⟩
      exact (List.append_eq_singleton_iff.1 hb.symm).elim (fun h => (List.cons.inj h.2).2)
        fun h => nomatch h.2
    | ok schemas =>
      rw [applySchemas_of_ok h hr]
      exact disciplined_publish_onlyBusy _ _ _ onlyBusy_nil

theorem disciplined_applyTables (s : Session) (response : TableResponse) :
    (s.applyTables response).Disciplined s := by
  cases h : s.refresh.isCurrent response.generation with
  | false =>
    rw [applyTables_of_stale h]
    exact disciplined_silently s _
  | true =>
    cases hr : response.result with
    | error cause =>
      rw [applyTables_of_error h hr]
      refine disciplined_publish _ _ _ rfl fun ns e rest hb => ⟨?_, gates_of_failed rfl⟩
      match ns, hb with
      | [_], hb => exact (List.cons.inj (List.cons.inj hb).2).2.symm
      | _ :: _ :: _, hb =>
        have := (List.cons.inj (List.cons.inj hb).2).2
        simp at this
    | ok tables =>
      rw [applyTables_of_ok h hr]
      exact disciplined_publish_onlyBusy _ _ _ onlyBusy_hideBusy

/-! ## One operation, and a history of them -/

/-- **Every single operation is disciplined.** -/
theorem disciplined_act (hc : s.Consistent) (hs : s.UpToDate) (a : Action) :
    (s.act a).Disciplined s := by
  have hpub {α : Type} (s' : Session) (result : α) : (s'.publish [] result).Disciplined s :=
    disciplined_publish_onlyBusy s s' result onlyBusy_nil
  cases a with
  | addTables names => exact (hpub _ _).map Reply.added
  | removeTables names =>
    refine Disciplined.map ?_ _
    unfold removeTables
    split <;> exact hpub _ _
  | addJoin j =>
    refine Disciplined.map ?_ _
    unfold addJoin
    split
    · exact disciplined_silently s _
    · exact hpub _ _
  | removeJoin j =>
    refine Disciplined.map ?_ _
    unfold removeJoin
    split
    · exact hpub _ _
    · exact disciplined_silently s _
  | setFact name => exact (hpub _ _).map fun _ => Reply.done
  | pickFact index => exact (hpub _ _).map fun _ => Reply.done
  | setMode mode => exact (hpub _ _).map fun _ => Reply.done
  | activateForward => exact (disciplined_activateForward hc).map _
  | activateReverse => exact (hpub _ _).map fun _ => Reply.done
  | setConnection c =>
    exact (disciplined_publish_onlyBusy s _ _ s.onlyBusy_busyEnd).map fun _ => Reply.done
  | selectSchema schema => exact (disciplined_selectSchema hs schema).map _
  | requestSchemas => exact (disciplined_requestSchemas hs).map _
  | requestTables =>
    exact (disciplined_requestTablesOf hs none).map fun t => Reply.tableTicket (some t)
  | applySchemas response => exact (disciplined_applySchemas s response).map _
  | applyTables response => exact (disciplined_applyTables s response).map _

/-- Everything the host is told over a history, in order. -/
def noticesOf (s : Session) : List Action → List Notice
  | [] => []
  | a :: history => (s.act a).notices ++ (s.act a).session.noticesOf history

/-- **The host knows the published gates,** after any history, if it knew them before. -/
theorem published_after (hc : s.Consistent) (hs : s.UpToDate) (history : List Action) :
    (s.after history).UpToDate ∧
      (s.after history).published =
        (sentGates (s.noticesOf history)).getLast?.getD s.published := by
  induction history generalizing s with
  | nil => exact ⟨hs, rfl⟩
  | cons a history ih =>
    have hd := disciplined_act hc hs a
    obtain ⟨hup, hlast⟩ := ih (hc.act a) (hd.upToDate hs)
    refine ⟨hup, hlast.trans ?_⟩
    rw [noticesOf, sentGates_append, List.getLast?_append, hd.remembered]
    cases (sentGates ((s.act a).session.noticesOf history)).getLast? <;> rfl

/-- **The host is told of the gates as it must be,** at any time.  Every operation on a session that
was reached by any history is disciplined.  The pair published last is closed while the refresh has
failed and else that of the selection, the fact table and the mode; it is the last one the host
received (closed gates, if it received none), and tells how much is selected and chosen. -/
theorem host_knows_gates (id : String) (connection : Connection) (mode : Mode)
    (saved : Option SavedConfig) (history : List Action) :
    let first := start id connection mode saved
    let s := first.after history
    (∀ a, (s.act a).Disciplined s) ∧
      s.published = (if s.refresh.state = .failed then .blocked
        else .ofModel s.selection s.fact s.mode) ∧
      s.published = lastGates (first.noticesOf history) ∧
      (s.published.valid = true ↔ s.refresh.state ≠ .failed ∧ 1 < s.selection.tables.length ∧
        (s.mode = .star → s.fact.name ≠ none)) ∧
      (s.published.finishable = true ↔ s.refresh.state ≠ .failed ∧
        (s.selection.tables.length = 1 ∨ s.mode = .star ∧ s.fact.name ≠ none)) := by
  intro first s
  have hfirst : first.Consistent := consistent_start id connection mode saved
  have hblocked : first.UpToDate := (gates_of_selection_nil rfl).symm
  obtain ⟨hup, hlast⟩ := published_after hfirst hblocked history
  have hc : s.Consistent := hfirst.after history
  exact ⟨disciplined_act hc hup, hup, hlast, hup ▸ valid_gates_iff hc,
    hup ▸ finishable_gates_iff hc⟩

end Session
end JoinWizard
