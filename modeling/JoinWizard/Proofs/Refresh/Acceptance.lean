/-
# Which answers are applied

An answer is applied, be it a success or a failure, exactly if its ticket is still awaited, and is
stale otherwise.  That is the law by which a user who switches schemas faster than a source answers
sees the tables of the schema picked last, however the answers arrive.

| what is known of an exchange | why |
| --- | --- |
| an answer is applied iff its ticket is awaited | the generation tells (`Exchange.Tracks`) |
| applied tables are those of the selected schema | a selection gives up what is outstanding |
| the state says what is outstanding | an answer ends the state, a request begins it |
| one ticket at most is current | one ticket at most is awaited |
| a stale ticket stays stale | generations only grow (`Exchange.Grows`) |
-/

import JoinWizard.Proofs.Refresh.Awaited

namespace JoinWizard
namespace Exchange

/-! ## What only grows -/

/-- What one exchange has become of another: it has all the tickets, in their places, and its
generation is no earlier. -/
structure Grows (x y : Exchange) : Prop where
  tickets : x.tickets <+: y.tickets
  generation_le : x.refresh.generation ≤ y.refresh.generation

variable {x y z : Exchange}

namespace Grows

theorem refl (x : Exchange) : Grows x x := ⟨List.prefix_refl _, Nat.le_refl _⟩

theorem trans (h : Grows x y) (h' : Grows y z) : Grows x z :=
  ⟨h.tickets.trans h'.tickets, Nat.le_trans h.generation_le h'.generation_le⟩

/-- A ticket keeps its place. -/
theorem ticket (h : Grows x y) {n : Nat} {t : Ticket} (ht : x.tickets[n]? = some t) :
    y.tickets[n]? = some t := by
  obtain ⟨hlt, heq⟩ := List.getElem?_eq_some_iff.1 ht
  obtain ⟨more, hmore⟩ := h.tickets
  rw [← hmore, List.getElem?_append_left hlt, ht]

/-- **A generation that has passed does not come back.** -/
theorem not_current (h : Grows x y) {g : Nat} (hle : g ≤ x.refresh.generation)
    (hc : x.refresh.isCurrent g = false) : y.refresh.isCurrent g = false := by
  have hne : g ≠ x.refresh.generation := of_decide_eq_false hc
  have hgrow := h.generation_le
  exact decide_eq_false (by omega)

end Grows

theorem generation_selectSchema_le {r : Refresh} {schema : String} :
    r.generation ≤ (r.selectSchema schema).generation := by
  rw [Refresh.selectSchema]
  split
  · exact Nat.le_succ _
  · exact Nat.le_refl _

theorem generation_acceptSchemas {r : Refresh} {response : SchemaResponse} :
    (r.acceptSchemas response).1.generation = r.generation := by
  rw [Refresh.acceptSchemas]
  split
  · cases response.result <;> rfl
  · rfl

theorem generation_acceptTables {r : Refresh} {response : TableResponse} :
    (r.acceptTables response).1.generation = r.generation := by
  rw [Refresh.acceptTables]
  split
  · cases response.result <;> rfl
  · rfl

/-- Every event keeps the tickets and lowers no generation. -/
theorem grows_step (x : Exchange) (e : Event) : Grows x (x.step e) := by
  cases e with
  | requestSchemas => exact ⟨List.prefix_append .., Nat.le_succ _⟩
  | requestTables schema => exact ⟨List.prefix_append .., Nat.le_succ _⟩
  | selectSchema schema => exact ⟨List.prefix_refl _, generation_selectSchema_le⟩
  | setConnection connection => exact ⟨List.prefix_refl _, Nat.le_succ _⟩
  | schemas n result =>
    rw [step]
    split
    · exact ⟨List.prefix_refl _, Nat.le_of_eq generation_acceptSchemas.symm⟩
    · exact Grows.refl x
  | tables n result =>
    rw [step]
    split
    · exact ⟨List.prefix_refl _, Nat.le_of_eq generation_acceptTables.symm⟩
    · exact Grows.refl x

/-- Any further history keeps the tickets and lowers no generation. -/
theorem grows_foldl (x : Exchange) (later : List Event) : Grows x (later.foldl step x) := by
  induction later generalizing x with
  | nil => exact Grows.refl x
  | cons e later ih => exact (grows_step x e).trans (ih (x.step e))

/-! ## The law -/

/-- The law of which answers an exchange applies, for the history that left it behind. -/
structure AppliesAwaited (history : List Event) (x : Exchange) : Prop where
  /-- Schemas that have not come are applied, when they come, exactly if they are awaited. -/
  schemas_iff : ∀ n t, x.tickets[n]? = some (.schemas t) → ¬ Answered history n → ∀ result,
    ((x.refresh.acceptSchemas (t.respond result)).2 ≠ .stale ↔ Awaited history n)
  /-- Tables that have not come are applied, when they come, exactly if they are awaited. -/
  tables_iff : ∀ n t, x.tickets[n]? = some (.tables t) → ¬ Answered history n → ∀ result,
    ((x.refresh.acceptTables (t.respond result)).2 ≠ .stale ↔ Awaited history n)
  /-- Tables that are applied are those of the selected schema. -/
  applied_schema : ∀ n t, x.tickets[n]? = some (.tables t) → ¬ Answered history n → ∀ result,
    (x.refresh.acceptTables (t.respond result)).2 ≠ .stale →
      (t.respond result).schema = x.refresh.selectedSchema.getD ""
  /-- The state says that an answer of a kind is awaited exactly while the ticket of the current
  generation exists, is of that kind and has had no answer. -/
  fetching_iff : ∀ kind, x.refresh.state = .fetching kind ↔
    ∃ n t, x.tickets[n]? = some t ∧ x.refresh.isCurrent t.generation ∧ t.kind = kind ∧
      ¬ Answered history n
  /-- No two tickets are current. -/
  current_unique : ∀ (m n : Nat) (t u : Ticket), x.tickets[m]? = some t → x.tickets[n]? = some u →
    x.refresh.isCurrent t.generation → x.refresh.isCurrent u.generation → m = n
  /-- A ticket that is not current never becomes so, whatever comes. -/
  stale_forever : ∀ (n : Nat) (t : Ticket), x.tickets[n]? = some t →
    x.refresh.isCurrent t.generation = false → ∀ later : List Event,
      (later.foldl step x).tickets[n]? = some t ∧
        (later.foldl step x).refresh.isCurrent t.generation = false

variable {history : List Event} {n : Nat}

namespace Tracks

theorem isCurrent_iff (h : Tracks history x) {t : Ticket} (ht : x.tickets[n]? = some t) :
    x.refresh.isCurrent t.generation = true ↔ Awaited history n := by
  rw [Refresh.isCurrent_iff, h.current_iff n t ht]

/-- What is outstanding is what the current ticket asks for, until it has its answer. -/
theorem exists_outstanding_iff (h : Tracks history x) {kind : FetchKind} :
    (∃ n, Outstanding history n kind) ↔
      ∃ n t, x.tickets[n]? = some t ∧ x.refresh.isCurrent t.generation ∧ t.kind = kind ∧
        ¬ Answered history n := by
  constructor
  · rintro ⟨n, ha, hn, hk⟩
    obtain ⟨t, ht, hkind⟩ := h.exists_ticket hk
    exact ⟨n, t, ht, (h.isCurrent_iff ht).2 ha, hkind, hn⟩
  · rintro ⟨n, t, ht, hc, rfl, hn⟩
    exact ⟨n, (h.isCurrent_iff ht).1 hc, hn, h.issued_getElem ht⟩

end Tracks

/-- **An exchange applies exactly the awaited answers.**  In any order of requests, selections,
switches and answers in which each answer is to a ticket of its kind that has had none, what the
generations decide is what the history asks for. -/
theorem applies_exactly_awaited (connection : Connection) (h : Proper history) :
    AppliesAwaited history (after connection history) := by
  have hx := tracks_after connection h
  refine ⟨?_, ?_, ?_, ?_, ?_, ?_⟩
  · intro n t ht _ result
    rw [Refresh.acceptSchemas_ne_stale_iff]
    exact hx.isCurrent_iff ht
  · intro n t ht _ result
    rw [Refresh.acceptTables_ne_stale_iff]
    exact hx.isCurrent_iff ht
  · intro n t ht hn result hs
    have ha := (hx.isCurrent_iff ht).1 (Refresh.acceptTables_ne_stale_iff.1 hs)
    exact hx.schema n t ht ⟨ha, hn, hx.issued_getElem ht⟩
  · intro kind
    rw [hx.fetching_iff, hx.exists_outstanding_iff]
  · intro m n t u ht hu hct hcu
    exact ((hx.isCurrent_iff ht).1 hct).unique ((hx.isCurrent_iff hu).1 hcu)
  · intro n t ht hc later
    have hgrows := grows_foldl (after connection history) later
    have hle := hx.bounded t (List.mem_of_getElem? ht)
    exact ⟨hgrows.ticket ht, hgrows.not_current hle hc⟩

/-- The tables of one schema are asked for, another schema is selected and its tables are asked
for, and the tables of the first come late. -/
def lateTables : List Event :=
  [.requestTables (some "first"), .selectSchema "second", .requestTables none, .tables 0 (.ok [])]

/-- An event that is no answer may follow any history. -/
theorem mayFollow_of_answers_eq_none {e : Event} (he : e.answers? = none) :
    MayFollow history e := by
  intro n kind h
  rw [he] at h
  cases h

theorem proper_lateTables : Proper lateTables := by
  have hasked : Proper
      [.requestTables (some "first"), .selectSchema "second", .requestTables none] :=
    .snoc (.snoc (.snoc .nil (mayFollow_of_answers_eq_none rfl))
      (mayFollow_of_answers_eq_none rfl)) (mayFollow_of_answers_eq_none rfl)
  refine hasked.snoc fun n kind h => ?_
  obtain ⟨rfl, rfl⟩ := Prod.mk.inj (Option.some.inj h)
  refine ⟨rfl, ?_⟩
  rintro ⟨e, he, k, hk⟩
  simp only [List.mem_cons, List.not_mem_nil, or_false] at he
  rcases he with rfl | rfl | rfl <;> cases hk

/-- The law holds of tables that come late. -/
theorem applies_exactly_awaited_lateTables :
    Proper lateTables ∧
      AppliesAwaited lateTables (after ⟨"local", "static", "", none⟩ lateTables) :=
  ⟨proper_lateTables, applies_exactly_awaited _ proper_lateTables⟩

end Exchange
end JoinWizard
