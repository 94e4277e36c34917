/-
# The generation of a refresh tells which ticket is awaited

A refresh decides by one comparison whether it applies an answer: the generation of the ticket is
its own or it is not.  What it ought to decide is a matter of the whole history
(`Exchange.Awaited`): no request was made since, the connection was not switched, and no schema was
selected while tables were still to come.  In a history that answers each ticket at most once and as
what it is for, the two agree.

`Exchange.Tracks` ties a history to the exchange it leaves behind.  Of its clauses none is kept
alone: a selected schema takes a new generation only while the state says that tables are awaited,
so what the generation means depends on what the state means, and that an answer may change the
state depends on what the generation means.
-/

import JoinWizard.Proofs.Refresh.Exchange
import JoinWizard.Proofs.Session.Responses

namespace JoinWizard

/-- The state in which an answer of a kind is awaited. -/
def RefreshState.fetching : FetchKind → RefreshState
  | .schemas => .fetchingSchemas
  | .tables => .fetchingTables

theorem RefreshState.fetching_inj {k l : FetchKind} : fetching k = fetching l ↔ k = l := by
  cases k <;> cases l <;> decide

/-- A state in which nothing is awaited awaits no answer of any kind. -/
theorem RefreshState.ne_fetching {s : RefreshState} (h : s.isFetching = false) (k : FetchKind) :
    s ≠ fetching k := by
  rintro rfl
  cases k <;> cases h

namespace Exchange

/-- Whether an answer of a kind is wanted from a ticket and has not come. -/
def Outstanding (history : List Event) (n : Nat) (kind : FetchKind) : Prop :=
  Awaited history n ∧ ¬ Answered history n ∧ (issued history)[n]? = some kind

/-- What a history and the exchange it leaves behind know of each other. -/
structure Tracks (history : List Event) (x : Exchange) : Prop where
  /-- The tickets are those the history issued. -/
  kinds : x.tickets.map Ticket.kind = issued history
  /-- No ticket is of a generation to come. -/
  bounded : ∀ t ∈ x.tickets, t.generation ≤ x.refresh.generation
  /-- The ticket of the current generation is the awaited one. -/
  current_iff : ∀ n t, x.tickets[n]? = some t →
    (t.generation = x.refresh.generation ↔ Awaited history n)
  /-- The state says what is outstanding. -/
  fetching_iff : ∀ kind, x.refresh.state = .fetching kind ↔ ∃ n, Outstanding history n kind
  /-- Outstanding tables are those of the selected schema. -/
  schema : ∀ n t, x.tickets[n]? = some (.tables t) → Outstanding history n .tables →
    t.schema = x.refresh.selectedSchema.getD ""

variable {history : List Event} {e : Event} {x : Exchange} {r : Refresh} {n : Nat}
  {kind : FetchKind}

namespace Tracks

theorem start {connection : Connection} : Tracks [] { refresh := { connection } } where
  kinds := rfl
  bounded t ht := by simp at ht
  current_iff n t ht := by simp at ht
  fetching_iff kind := by
    constructor
    · intro h
      cases kind <;> cases h
    · rintro ⟨n, h, -⟩
      exact absurd h not_awaited_nil
  schema n t ht := by simp at ht

theorem length_issued (h : Tracks history x) : (issued history).length = x.tickets.length := by
  rw [← h.kinds, List.length_map]

theorem issued_getElem (h : Tracks history x) {t : Ticket} (ht : x.tickets[n]? = some t) :
    (issued history)[n]? = some t.kind := by
  rw [← h.kinds, List.getElem?_map, ht]
  rfl

/-! ## A request -/

/-- **A request keeps the tie** if its ticket is of the generation it takes, and for the schema it
selects if it is for tables. -/
theorem request (h : Tracks history x) {t : Ticket} (he : e.issues? = some t.kind)
    (hnew : ¬ Answered history (issued history).length)
    (hg : r.generation = x.refresh.generation + 1) (ht : t.generation = r.generation)
    (hs : r.state = .fetching t.kind)
    (hschema : ∀ u, t = .tables u → u.schema = r.selectedSchema.getD "") :
    Tracks (history ++ [e]) ⟨r, x.tickets ++ [t]⟩ := by
  have hsome : e.issues?.isSome := by rw [he]; rfl
  have hissued : issued (history ++ [e]) = issued history ++ [t.kind] := by
    rw [issued_append, issued_singleton, he]
    rfl
  -- Only the new ticket is of the new generation, and only it is awaited.
  have hplace : ∀ n u, (x.tickets ++ [t])[n]? = some u →
      (n < x.tickets.length ∧ u ∈ x.tickets) ∨ (n = x.tickets.length ∧ u = t) := by
    intro n u hu
    rw [List.getElem?_append] at hu
    split at hu
    · rename_i hn
      exact .inl ⟨hn, List.mem_of_getElem? hu⟩
    · rename_i hn
      obtain ⟨hlt, heq⟩ := List.getElem?_eq_some_iff.1 hu
      rw [List.length_singleton] at hlt
      refine .inr ⟨by omega, ?_⟩
      rw [← heq, List.getElem_singleton]
  refine ⟨?_, ?_, ?_, ?_, ?_⟩
  · rw [hissued, List.map_append, h.kinds]
    rfl
  · intro u hu
    rcases List.mem_append.1 hu with hu | hu
    · have := h.bounded u hu
      show u.generation ≤ r.generation
      omega
    · rw [List.mem_singleton.1 hu]
      exact Nat.le_of_eq ht
  · intro n u hu
    rw [awaited_request_iff hsome, h.length_issued]
    show u.generation = r.generation ↔ _
    rcases hplace n u hu with ⟨hn, hmem⟩ | ⟨rfl, rfl⟩
    · have := h.bounded u hmem
      omega
    · exact ⟨fun _ => rfl, fun _ => ht⟩
  · intro k
    show r.state = _ ↔ _
    rw [hs, RefreshState.fetching_inj]
    constructor
    · rintro rfl
      refine ⟨(issued history).length, (awaited_request_iff hsome).2 rfl, ?_, ?_⟩
      · rw [answered_snoc]
        rintro (ha | ⟨k, hk⟩)
        · exact hnew ha
        · cases e <;> simp [Event.issues?, Event.answers?] at he hk
      · rw [hissued, List.getElem?_concat_length]
    · rintro ⟨n, ha, -, hk⟩
      obtain rfl := (awaited_request_iff hsome).1 ha
      rw [hissued, List.getElem?_concat_length] at hk
      exact Option.some.inj hk
  · rintro n u hu ⟨ha, -⟩
    rw [awaited_request_iff hsome, h.length_issued] at ha
    rcases hplace n _ hu with ⟨hn, -⟩ | ⟨-, rfl⟩
    · omega
    · exact hschema u rfl

/-! ## A switch and a selection -/

/-- **An event that gives up whatever was awaited keeps the tie** if it takes a new generation, of
which there is no ticket, and a state in which nothing is fetched. -/
theorem give_up (h : Tracks history x) (he : e.issues? = none)
    (hnone : ∀ n, ¬ Awaited (history ++ [e]) n) (hg : r.generation = x.refresh.generation + 1)
    (hs : r.state.isFetching = false) : Tracks (history ++ [e]) { x with refresh := r } := by
  refine ⟨h.kinds.trans (issued_snoc_of_none he).symm, ?_, ?_, ?_, ?_⟩
  · intro t ht
    have hle := h.bounded t ht
    show t.generation ≤ r.generation
    omega
  · intro n t ht
    have hle := h.bounded t (List.mem_of_getElem? ht)
    refine iff_of_false ?_ (hnone n)
    show t.generation ≠ r.generation
    omega
  · intro kind
    refine iff_of_false (r.state.ne_fetching hs kind) ?_
    rintro ⟨n, ha, -⟩
    exact hnone n ha
  · rintro n t - ⟨ha, -⟩
    exact absurd ha (hnone n)

/-- **An event that changes nothing of what is awaited keeps the tie** if it leaves generation and
state as they are, and the selected schema while tables are outstanding. -/
theorem keep (h : Tracks history x) (he : e.issues? = none)
    (hawaited : ∀ n, Awaited (history ++ [e]) n ↔ Awaited history n)
    (hout : ∀ n kind, Outstanding (history ++ [e]) n kind ↔ Outstanding history n kind)
    (hg : r.generation = x.refresh.generation) (hs : r.state = x.refresh.state)
    (hschema : ∀ n, Outstanding history n .tables → r.selectedSchema = x.refresh.selectedSchema) :
    Tracks (history ++ [e]) { x with refresh := r } := by
  refine ⟨h.kinds.trans (issued_snoc_of_none he).symm, ?_, ?_, ?_, ?_⟩
  · intro t ht
    exact Nat.le_trans (h.bounded t ht) (Nat.le_of_eq hg.symm)
  · intro n t ht
    show t.generation = r.generation ↔ _
    rw [hawaited, hg]
    exact h.current_iff n t ht
  · intro kind
    show r.state = _ ↔ _
    simp only [hout, hs]
    exact h.fetching_iff kind
  · intro n t ht ho
    have ho := (hout n .tables).1 ho
    show t.schema = r.selectedSchema.getD ""
    rw [hschema n ho]
    exact h.schema n t ht ho

/-- A switch of the connection keeps the tie. -/
theorem setConnection (h : Tracks history x) (connection : Connection) :
    Tracks (history ++ [.setConnection connection])
      { x with refresh := x.refresh.setConnection connection } :=
  h.give_up rfl (fun _ => not_awaited_setConnection) rfl rfl

/-- A selected schema gives up nothing while no tables are outstanding. -/
theorem awaited_selectSchema (h : Tracks history x) (hs : x.refresh.state ≠ .fetchingTables)
    (schema : String) : Awaited (history ++ [.selectSchema schema]) n ↔ Awaited history n := by
  rw [awaited_selectSchema_iff, and_iff_left_iff_imp]
  intro ha ht
  refine Classical.byContradiction fun hn => ?_
  exact hs ((h.fetching_iff .tables).2 ⟨n, ha, hn, ht⟩)

/-- A selected schema gives up everything while tables are outstanding. -/
theorem not_awaited_selectSchema (h : Tracks history x)
    (hs : x.refresh.state = .fetchingTables) (schema : String) :
    ¬ Awaited (history ++ [.selectSchema schema]) n := by
  rw [awaited_selectSchema_iff]
  rintro ⟨ha, ht⟩
  obtain ⟨m, hm, hn, hk⟩ := (h.fetching_iff .tables).1 hs
  rw [hm.unique ha] at hn hk
  exact hn (ht hk)

/-- **A selection keeps the tie.**  It takes a new generation exactly while tables are
outstanding, which is when it gives up what is awaited. -/
theorem selectSchema (h : Tracks history x) (schema : String) :
    Tracks (history ++ [.selectSchema schema])
      { x with refresh := x.refresh.selectSchema schema } := by
  by_cases hs : x.refresh.state = .fetchingTables
  · have hr : x.refresh.selectSchema schema =
        { x.refresh with
          selectedSchema := some schema
          generation := x.refresh.generation + 1
          state := if x.refresh.schemas.isEmpty then .idle else .schemasReady } :=
      if_pos (decide_eq_true hs)
    rw [hr]
    refine h.give_up rfl (fun _ => h.not_awaited_selectSchema hs schema) rfl ?_
    show (if x.refresh.schemas.isEmpty then RefreshState.idle else .schemasReady).isFetching = _
    split <;> rfl
  · have hr : x.refresh.selectSchema schema = { x.refresh with selectedSchema := some schema } :=
      if_neg fun h => hs (of_decide_eq_true h)
    have hanswered (n : Nat) :
        Answered (history ++ [.selectSchema schema]) n ↔ Answered history n := by
      rw [answered_snoc, or_iff_left]
      rintro ⟨k, hk⟩
      cases hk
    rw [hr]
    refine h.keep rfl (fun _ => h.awaited_selectSchema hs schema) (fun n kind => ?_) rfl rfl
      fun n ho => ?_
    · rw [Outstanding, Outstanding, h.awaited_selectSchema hs, hanswered, issued_snoc_of_none rfl]
    · exact absurd ((h.fetching_iff .tables).2 ⟨n, ho⟩) hs

/-! ## An answer -/

/-- An answer issues no ticket. -/
theorem issues_of_answers (he : e.answers? = some (n, kind)) : e.issues? = none := by
  cases e <;> first | rfl | cases he

/-- **An answer to a ticket that is not awaited keeps the tie**, as it changes nothing. -/
theorem answer_stale (h : Tracks history x) (he : e.answers? = some (n, kind))
    (hn : ¬ Awaited history n) : Tracks (history ++ [e]) x := by
  have hi : e.issues? = none := issues_of_answers he
  have hawaited (m : Nat) : Awaited (history ++ [e]) m ↔ Awaited history m :=
    awaited_answer_iff (by rw [he]; rfl)
  refine h.keep hi hawaited (fun m k => ?_) rfl rfl fun _ _ => rfl
  rw [Outstanding, Outstanding, issued_snoc_of_none hi, hawaited]
  refine and_congr_right fun ha => and_congr_left fun _ => not_congr ?_
  rw [answered_snoc, or_iff_left]
  rintro ⟨k', hk⟩
  obtain ⟨rfl, -⟩ := Prod.mk.inj (Option.some.inj (he.symm.trans hk))
  exact hn ha

/-- **An answer to the awaited ticket keeps the tie** if it leaves the generation as it is and the
state one in which nothing is fetched: no other ticket is outstanding. -/
theorem answer_current (h : Tracks history x) (he : e.answers? = some (n, kind))
    (hn : Awaited history n) (hg : r.generation = x.refresh.generation)
    (hs : r.state.isFetching = false) : Tracks (history ++ [e]) { x with refresh := r } := by
  have hawaited (m : Nat) : Awaited (history ++ [e]) m ↔ Awaited history m :=
    awaited_answer_iff (by rw [he]; rfl)
  have hout : ∀ m k, ¬ Outstanding (history ++ [e]) m k := by
    rintro m k ⟨ha, hnone, -⟩
    rw [hn.unique ((hawaited m).1 ha)] at he
    exact hnone (answered_snoc.2 (.inr ⟨kind, he⟩))
  refine ⟨h.kinds.trans (issued_snoc_of_none (issues_of_answers he)).symm, ?_, ?_, ?_, ?_⟩
  · intro t ht
    exact Nat.le_trans (h.bounded t ht) (Nat.le_of_eq hg.symm)
  · intro m t ht
    rw [hawaited, ← h.current_iff m t ht]
    show t.generation = r.generation ↔ _
    rw [hg]
  · intro k
    refine iff_of_false (r.state.ne_fetching hs k) ?_
    rintro ⟨m, ho⟩
    exact hout m k ho
  · intro m t _ ho
    exact absurd ho (hout m .tables)

/-- An answer to a ticket for schemas, awaited or not, keeps the tie. -/
theorem answer_schemas (h : Tracks history x) {t : SchemaTicket}
    (ht : x.tickets[n]? = some (.schemas t)) (result : Except SourceError (List SchemaInfo)) :
    Tracks (history ++ [.schemas n result])
      { x with refresh := (x.refresh.acceptSchemas (t.respond result)).1 } := by
  have hiff : t.generation = x.refresh.generation ↔ Awaited history n := h.current_iff n _ ht
  have hresult : (t.respond result).result = result := rfl
  cases hc : x.refresh.isCurrent (t.respond result).generation with
  | false =>
    rw [Refresh.acceptSchemas_of_stale hc]
    refine h.answer_stale rfl fun ha => ?_
    exact Bool.false_ne_true (hc.symm.trans (Refresh.isCurrent_iff.2 (hiff.2 ha)))
  | true =>
    have ha := hiff.1 (Refresh.isCurrent_iff.1 hc)
    cases result with
    | error cause =>
      rw [Refresh.acceptSchemas_of_error hc hresult]
      exact h.answer_current rfl ha rfl rfl
    | ok schemas =>
      rw [Refresh.acceptSchemas_of_ok hc hresult]
      exact h.answer_current rfl ha rfl rfl

/-- An answer to a ticket for tables, awaited or not, keeps the tie. -/
theorem answer_tables (h : Tracks history x) {t : TableTicket}
    (ht : x.tickets[n]? = some (.tables t)) (result : Except SourceError (List Table)) :
    Tracks (history ++ [.tables n result])
      { x with refresh := (x.refresh.acceptTables (t.respond result)).1 } := by
  have hiff : t.generation = x.refresh.generation ↔ Awaited history n := h.current_iff n _ ht
  have hresult : (t.respond result).result = result := rfl
  cases hc : x.refresh.isCurrent (t.respond result).generation with
  | false =>
    rw [Refresh.acceptTables_of_stale hc]
    refine h.answer_stale rfl fun ha => ?_
    exact Bool.false_ne_true (hc.symm.trans (Refresh.isCurrent_iff.2 (hiff.2 ha)))
  | true =>
    have ha := hiff.1 (Refresh.isCurrent_iff.1 hc)
    cases result with
    | error cause =>
      rw [Refresh.acceptTables_of_error hc hresult]
      exact h.answer_current rfl ha rfl rfl
    | ok tables =>
      rw [Refresh.acceptTables_of_ok hc hresult]
      exact h.answer_current rfl ha rfl rfl

/-! ## A whole history -/

/-- A ticket that a history issued is among the tickets, and is for what it was issued for. -/
theorem exists_ticket (h : Tracks history x) (hk : (issued history)[n]? = some kind) :
    ∃ t, x.tickets[n]? = some t ∧ t.kind = kind := by
  rw [← h.kinds, List.getElem?_map] at hk
  exact Option.map_eq_some_iff.1 hk

/-- **Every event that may follow keeps the tie.** -/
theorem step (h : Tracks history x) (hp : Proper history) (he : MayFollow history e) :
    Tracks (history ++ [e]) (x.step e) := by
  have hnew : ¬ Answered history (issued history).length :=
    fun ha => Nat.lt_irrefl _ (hp.lt_of_answered ha)
  cases e with
  | requestSchemas => exact h.request rfl hnew rfl rfl rfl (fun u hu => by cases hu)
  | requestTables schema =>
    refine h.request rfl hnew rfl rfl rfl fun u hu => ?_
    cases hu
    rfl
  | selectSchema schema => exact h.selectSchema schema
  | setConnection connection => exact h.setConnection connection
  | schemas n result =>
    obtain ⟨t, ht, hk⟩ := h.exists_ticket (he n .schemas rfl).1
    cases t with
    | schemas t =>
      rw [Exchange.step, ht]
      exact h.answer_schemas ht result
    | tables t => cases hk
  | tables n result =>
    obtain ⟨t, ht, hk⟩ := h.exists_ticket (he n .tables rfl).1
    cases t with
    | schemas t => cases hk
    | tables t =>
      rw [Exchange.step, ht]
      exact h.answer_tables ht result

end Tracks

/-- **A proper history and the exchange it leaves behind are tied.** -/
theorem tracks_after (connection : Connection) (h : Proper history) :
    Tracks history (after connection history) := by
  induction h with
  | nil => exact Tracks.start
  | snoc h he ih =>
    rw [after_snoc]
    exact ih.step h he

end Exchange
end JoinWizard
