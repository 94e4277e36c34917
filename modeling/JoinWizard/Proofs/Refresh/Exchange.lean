/-
# Requests and their answers

An *exchange* is a refresh together with the tickets it has issued, in the order of their issue.  A
*history* is what befell it: requests, selections of a schema, switches of the connection, and
answers, each to the ticket at some place of that order.  Answers come in any order and arbitrarily
late, and some never come.

| event | issues | answers |
| --- | --- | --- |
| `requestSchemas` | a ticket for schemas | |
| `requestTables schema` | a ticket for tables | |
| `selectSchema schema` | | |
| `setConnection connection` | | |
| `schemas n result` | | ticket `n`, which is for schemas |
| `tables n result` | | ticket `n`, which is for tables |

`Awaited history n` says of a history alone, with no generation in sight, that the answer to ticket
`n` is still wanted.  What the generations of a refresh have to do with it is the subject of
`JoinWizard.Proofs.Refresh.Awaited`.
-/

import JoinWizard.Refresh

namespace JoinWizard

/-- A request that was issued. -/
inductive Ticket where
  | schemas (ticket : SchemaTicket)
  | tables (ticket : TableTicket)
  deriving DecidableEq, Repr

namespace Ticket

/-- What the request asks for. -/
def kind : Ticket → FetchKind
  | schemas _ => .schemas
  | tables _ => .tables

/-- The generation the request was stamped with. -/
def generation : Ticket → Nat
  | schemas t => t.generation
  | tables t => t.generation

end Ticket

/-- A refresh and the tickets it has issued, the oldest first. -/
structure Exchange where
  refresh : Refresh
  tickets : List Ticket := []

namespace Exchange

/-- What can befall an exchange. -/
inductive Event where
  | requestSchemas
  | requestTables (schema : Option String)
  | selectSchema (schema : String)
  | setConnection (connection : Connection)
  | schemas (ticket : Nat) (result : Except SourceError (List SchemaInfo))
  | tables (ticket : Nat) (result : Except SourceError (List Table))

namespace Event

/-- What the ticket is for that an event issues, if it issues one. -/
def issues? : Event → Option FetchKind
  | requestSchemas => some .schemas
  | requestTables _ => some .tables
  | _ => none

/-- Which ticket an event answers, and as what, if it is an answer. -/
def answers? : Event → Option (Nat × FetchKind)
  | schemas n _ => some (n, .schemas)
  | tables n _ => some (n, .tables)
  | _ => none

end Event

/-- An exchange after one event.  An answer to no ticket, or to one of another kind, is lost. -/
def step (x : Exchange) : Event → Exchange
  | .requestSchemas =>
    let (refresh, ticket) := x.refresh.requestSchemas
    ⟨refresh, x.tickets ++ [.schemas ticket]⟩
  | .requestTables schema =>
    let (refresh, ticket) := x.refresh.requestTables schema
    ⟨refresh, x.tickets ++ [.tables ticket]⟩
  | .selectSchema schema => { x with refresh := x.refresh.selectSchema schema }
  | .setConnection connection => { x with refresh := x.refresh.setConnection connection }
  | .schemas n result =>
    match x.tickets[n]? with
    | some (.schemas t) => { x with refresh := (x.refresh.acceptSchemas (t.respond result)).1 }
    | _ => x
  | .tables n result =>
    match x.tickets[n]? with
    | some (.tables t) => { x with refresh := (x.refresh.acceptTables (t.respond result)).1 }
    | _ => x

/-- The exchange that a history leaves behind, for a refresh that starts with a connection. -/
def after (connection : Connection) (history : List Event) : Exchange :=
  history.foldl step { refresh := { connection } }

@[simp] theorem after_snoc {connection : Connection} {history : List Event} {e : Event} :
    after connection (history ++ [e]) = (after connection history).step e := by
  rw [after, List.foldl_append]
  rfl

/-! ## What a history says of its tickets -/

/-- What the tickets of a history are for, the oldest first. -/
def issued (history : List Event) : List FetchKind := history.filterMap Event.issues?

/-- Whether a ticket has had its answer. -/
def Answered (history : List Event) (n : Nat) : Prop :=
  ∃ e ∈ history, ∃ kind, e.answers? = some (n, kind)

/-- Whether an event may follow a history.  An answer may if it is to a ticket of the history, as
what that ticket is for, and the ticket has had no answer.  Any other event may always. -/
def MayFollow (history : List Event) (e : Event) : Prop :=
  ∀ n kind, e.answers? = some (n, kind) → (issued history)[n]? = some kind ∧ ¬ Answered history n

/-- The histories in which each answer is to a ticket that was issued before, and no ticket is
answered twice. -/
inductive Proper : List Event → Prop where
  | nil : Proper []
  | snoc {history : List Event} {e : Event} (h : Proper history) (he : MayFollow history e) :
    Proper (history ++ [e])

/-- Whether the answer to a ticket is still wanted.  It is the ticket issued last; since then the
connection has not been switched, and if it is for tables, no schema was selected while it had no
answer. -/
def Awaited (history : List Event) (n : Nat) : Prop :=
  ∃ before request since, history = before ++ request :: since ∧
    request.issues?.isSome ∧ (issued before).length = n ∧
    issued since = [] ∧ (∀ connection, .setConnection connection ∉ since) ∧
    (request.issues? = some .tables →
      ∀ earlier schema later, since = earlier ++ .selectSchema schema :: later →
        Answered (before ++ request :: earlier) n)

variable {history : List Event} {e : Event} {n : Nat} {kind : FetchKind}

@[simp] theorem issued_append {before since : List Event} :
    issued (before ++ since) = issued before ++ issued since :=
  List.filterMap_append ..

theorem issued_singleton : issued [e] = e.issues?.toList := by
  cases h : e.issues? <;> simp [issued, h]

theorem issued_snoc_of_none (he : e.issues? = none) : issued (history ++ [e]) = issued history := by
  rw [issued_append, issued_singleton, he]
  exact List.append_nil _

theorem not_answered_nil : ¬ Answered [] n := by
  rintro ⟨e, he, -⟩
  simp at he

theorem answered_snoc :
    Answered (history ++ [e]) n ↔ Answered history n ∨ ∃ kind, e.answers? = some (n, kind) := by
  simp only [Answered, List.mem_append, List.mem_singleton, or_and_right, exists_or, exists_eq_left]

/-- A proper history answers only tickets it has issued. -/
theorem Proper.lt_of_answered (h : Proper history) (ha : Answered history n) :
    n < (issued history).length := by
  induction h with
  | nil => exact absurd ha not_answered_nil
  | @snoc history e h he ih =>
    rw [issued_append, List.length_append]
    rcases answered_snoc.1 ha with ha | ⟨kind, hk⟩
    · have hlt := ih ha
      omega
    · obtain ⟨hlt, -⟩ := List.getElem?_eq_some_iff.1 (he n kind hk).1
      omega

theorem not_awaited_nil : ¬ Awaited [] n := by
  rintro ⟨before, request, since, h, -⟩
  simp at h

/-- An awaited ticket is the one that was issued last. -/
theorem Awaited.length_issued (h : Awaited history n) : (issued history).length = n + 1 := by
  obtain ⟨before, request, since, rfl, hr, rfl, hs, -⟩ := h
  obtain ⟨kind, hk⟩ := Option.isSome_iff_exists.1 hr
  have hone : issued (request :: since) = [kind] := by
    rw [← List.singleton_append, issued_append, issued_singleton, hk, hs]
    rfl
  rw [issued_append, hone, List.length_append, List.length_singleton]

/-- At most one ticket is awaited. -/
theorem Awaited.unique {m : Nat} (hm : Awaited history m) (hn : Awaited history n) : m = n := by
  have h₁ := hm.length_issued
  have h₂ := hn.length_issued
  omega

/-- The request of an awaited ticket is the one that issued it. -/
theorem issued_getElem_of_split {before since : List Event} (hn : (issued before).length = n)
    (he : e.issues?.isSome) : (issued (before ++ e :: since))[n]? = e.issues? := by
  obtain ⟨kind, hk⟩ := Option.isSome_iff_exists.1 he
  subst hn
  rw [issued_append, List.getElem?_append_right (Nat.le_refl _), Nat.sub_self, hk, issued,
    List.filterMap_cons_some hk]
  rfl

/-- A request awaits the ticket it issues. -/
theorem awaited_of_issues (he : e.issues?.isSome) (hn : (issued history).length = n) :
    Awaited (history ++ [e]) n := by
  refine ⟨history, e, [], rfl, he, hn, rfl, by simp, fun _ earlier schema later h => ?_⟩
  simp at h

/-- An awaited ticket stays awaited over an event that neither supersedes it nor gives it up. -/
theorem Awaited.snoc (h : Awaited history n) (he : e.issues? = none)
    (hc : ∀ connection, e ≠ .setConnection connection)
    (hs : ∀ schema, e = .selectSchema schema → (issued history)[n]? = some .tables →
      Answered history n) :
    Awaited (history ++ [e]) n := by
  obtain ⟨before, request, since, rfl, hr, hn, hi, hc', ha⟩ := h
  refine ⟨before, request, since ++ [e], by simp, hr, hn, ?_, ?_, ?_⟩
  · rw [issued_append, hi, issued_singleton, he]
    rfl
  · intro connection h
    rcases List.mem_append.1 h with h | h
    · exact hc' connection h
    · exact hc connection (List.mem_singleton.1 h).symm
  · intro ht earlier schema later h
    rcases List.eq_nil_or_concat later with rfl | ⟨later', e', rfl⟩
    · obtain ⟨rfl, h⟩ := List.append_inj' h rfl
      have he : e = .selectSchema schema := by simpa using h
      exact hs schema he ((issued_getElem_of_split hn hr).trans ht)
    · rw [List.concat_eq_append, ← List.cons_append, ← List.append_assoc] at h
      exact ha ht earlier schema later' (List.append_inj' h rfl).1

/-- A ticket that is awaited after an event was issued by it, or was awaited before an event that
neither supersedes it nor gives it up. -/
theorem Awaited.of_snoc (h : Awaited (history ++ [e]) n) :
    (e.issues?.isSome ∧ (issued history).length = n) ∨
      (Awaited history n ∧ e.issues? = none ∧ (∀ connection, e ≠ .setConnection connection) ∧
        ∀ schema, e = .selectSchema schema → (issued history)[n]? = some .tables →
          Answered history n) := by
  obtain ⟨before, request, since, hsplit, hr, hn, hi, hc, ha⟩ := h
  rcases List.eq_nil_or_concat since with rfl | ⟨since', e', rfl⟩
  · obtain ⟨rfl, h⟩ := List.append_inj' hsplit rfl
    obtain rfl : e = request := by simpa using h
    exact .inl ⟨hr, hn⟩
  · rw [List.concat_eq_append, ← List.cons_append, ← List.append_assoc] at hsplit
    obtain ⟨rfl, h⟩ := List.append_inj' hsplit rfl
    obtain rfl : e = e' := by simpa using h
    rw [List.concat_eq_append] at hi hc ha
    obtain ⟨hi', he⟩ := List.append_eq_nil_iff.1 (issued_append ▸ hi)
    refine .inr ⟨⟨before, request, since', rfl, hr, hn, hi', fun connection h => ?_, ?_⟩,
      ?_, fun connection h => ?_, ?_⟩
    · exact hc connection (List.mem_append_left _ h)
    · intro ht earlier schema later h
      exact ha ht earlier schema (later ++ [e]) (by rw [h]; simp)
    · rwa [issued_singleton, Option.toList_eq_nil_iff] at he
    · exact hc connection (List.mem_append_right _ (by simp [h]))
    · rintro schema rfl ht
      rw [issued_getElem_of_split hn hr] at ht
      exact ha ht since' schema [] rfl

/-! ## Awaited tickets, event by event -/

/-- A request supersedes whatever was awaited and awaits its own ticket. -/
theorem awaited_request_iff (he : e.issues?.isSome) :
    Awaited (history ++ [e]) n ↔ (issued history).length = n := by
  refine ⟨fun h => ?_, awaited_of_issues he⟩
  rcases h.of_snoc with ⟨-, hn⟩ | ⟨-, hnone, -⟩
  · exact hn
  · simp [hnone] at he

/-- A switch of the connection gives up whatever was awaited. -/
theorem not_awaited_setConnection {connection : Connection} :
    ¬ Awaited (history ++ [.setConnection connection]) n := by
  intro h
  rcases h.of_snoc with ⟨he, -⟩ | ⟨-, -, hc, -⟩
  · simp [Event.issues?] at he
  · exact hc connection rfl

/-- A selected schema gives up tables that were still to come. -/
theorem awaited_selectSchema_iff {schema : String} :
    Awaited (history ++ [.selectSchema schema]) n ↔
      Awaited history n ∧ ((issued history)[n]? = some .tables → Answered history n) := by
  constructor
  · intro h
    rcases h.of_snoc with ⟨he, -⟩ | ⟨h, -, -, hs⟩
    · simp [Event.issues?] at he
    · exact ⟨h, hs schema rfl⟩
  · rintro ⟨h, hs⟩
    exact h.snoc rfl (fun _ => Event.noConfusion) fun _ _ => hs

/-- An answer supersedes nothing. -/
theorem awaited_answer_iff (he : e.answers?.isSome) :
    Awaited (history ++ [e]) n ↔ Awaited history n := by
  have hi : e.issues? = none := by cases e <;> first | rfl | cases he
  constructor
  · intro h
    rcases h.of_snoc with ⟨hsome, -⟩ | ⟨h, -⟩
    · simp [hi] at hsome
    · exact h
  · intro h
    refine h.snoc hi ?_ ?_
    · rintro connection rfl
      cases he
    · rintro schema rfl
      cases he

end Exchange
end JoinWizard
