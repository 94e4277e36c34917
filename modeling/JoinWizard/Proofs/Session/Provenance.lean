/-
# Tables and context come from one connection

A response may come long after its ticket was issued, and a snapshot says for which connection it
was made from what the session is on when it is committed.  That the two fit is a matter of the
whole history: the tables of a catalog are those of the last response that was applied, its ticket
was issued since the last switch of the connection, and so for the connection the session is on.

```text
  … ── switch ──── ticket n issued ──── … ──── response to ticket n ──── … ──── commit
          │            for c                     brings the tables             context of c
          └─ the session is on c, catalog and model are empty
```

A switch takes a new generation, so every ticket from before it is stale for good; it also empties
the catalog and all that is made of it.  Between switches only a response that brings tables touches
the catalog (`Dialogue.catalog_step`).
-/

import JoinWizard.Proofs.Session.Commit
import JoinWizard.Proofs.Session.Dialogue
import JoinWizard.Proofs.Session.Notices
import Mathlib.Data.List.Induction

namespace JoinWizard

/-- Joins over no tables are none. -/
theorem ModelConsistent.joins_eq_nil {c : Catalog} {s : Selection} {g : JoinGraph}
    {fact : FactTable} (h : ModelConsistent c s g fact) (hs : s.tables = []) : g.joins = [] := by
  refine List.eq_nil_iff_forall_not_mem.2 fun j hj => ?_
  obtain ⟨t, ht, -⟩ := h.joins_sound.left_supported j hj
  rw [hs] at ht
  cases ht

namespace Session

variable {s : Session}

/-- A commit takes place only where something is selected. -/
theorem selection_ne_nil_of_commit {sink sink' : CommitSink} {now : Int64} {name : String}
    {snapshot : Snapshot} (h : s.commit sink now name = .ok (snapshot, sink')) :
    s.selection.tables ≠ [] ∧ snapshot = s.snapshot name := by
  unfold commit at h
  split at h
  · next hc =>
    refine ⟨fun hs => ?_, ?_⟩
    · rw [gates_of_selection_nil hs] at hc
      cases hc
    · cases hk : sink.accept now (s.snapshot name) with
      | error e => rw [hk] at h; cases h
      | ok k => rw [hk] at h; cases h; rfl
  · cases h

end Session

namespace Asks

variable {s : Session} {a : Action} {r : Refresh} {ticket : Option Ticket} {busy : List Notice}

/-- An own action other than a switch keeps the connection. -/
theorem connection_eq (ha : Asks s a r ticket busy)
    (hswitch : ∀ connection, a ≠ .setConnection connection) :
    r.connection = s.refresh.connection := by
  cases ha with
  | nothing | schemas | tables => rfl
  | select schema => exact s.refresh.connection_selectSchema schema
  | switch connection h => exact absurd h (hswitch connection)

end Asks

namespace Dialogue

variable {x first : Dialogue} {history since : List Move} {m : Move} {n : Nat}
  {tables : List Table}

/-! ## What a history says of the tables -/

/-- Whether the connection stays the same over some moves. -/
def Unswitched (history : List Move) : Prop := ∀ connection, .switch connection ∉ history

/-- Whether a move brings tables: it is a response that is applied and holds them. -/
def Brings (x : Dialogue) (m : Move) (tables : List Table) : Prop :=
  (x.turn m).result = some (.tables (.current tables))

/-- Whether none of some moves brings tables. -/
def BringsNone (x : Dialogue) (history : List Move) : Prop :=
  ∀ before m since tables, history = before ++ m :: since → ¬ (x.after before).Brings m tables

/-- Whether the ticket at a place of the order of issue was issued since the last switch. -/
def IssuedHere (first : Dialogue) (history : List Move) (n : Nat) (t : Ticket) : Prop :=
  ∃ before m since, history = before ++ m :: since ∧ (first.after before).tickets.length = n ∧
    ((first.after before).step m).tickets[n]? = some t ∧ Unswitched since

/-- Whether no tables came since the last switch, or since the beginning. -/
def FetchedNothing (first : Dialogue) (history : List Move) : Prop :=
  ∃ before since, history = before ++ since ∧
    (before = [] ∨ ∃ earlier connection, before = earlier ++ [.switch connection]) ∧
    Unswitched since ∧ (first.after before).BringsNone since

/-- Whether the tables that came last came since the last switch, as the response to a ticket that
was issued since the last switch. -/
def Fetched (first : Dialogue) (history : List Move) (t : TableTicket) (asked : String)
    (tables : List Table) : Prop :=
  ∃ before n since, history = before ++ .tables n asked (.ok tables) :: since ∧
    (first.after before).Brings (.tables n asked (.ok tables)) tables ∧
    IssuedHere first before n (.tables t) ∧ Unswitched since ∧
    ((first.after before).step (.tables n asked (.ok tables))).BringsNone since

theorem unswitched_nil : Unswitched [] := fun _ => List.not_mem_nil

theorem Unswitched.snoc (h : Unswitched history) (hm : ∀ connection, m ≠ .switch connection) :
    Unswitched (history ++ [m]) := by
  intro connection hmem
  rcases List.mem_append.1 hmem with hmem | hmem
  · exact h connection hmem
  · exact hm connection (List.mem_singleton.1 hmem).symm

theorem Unswitched.cons (h : Unswitched (m :: since)) :
    (∀ connection, m ≠ .switch connection) ∧ Unswitched since := by
  refine ⟨fun connection hm => ?_, fun connection hmem => ?_⟩
  · exact h connection (hm ▸ List.mem_cons_self ..)
  · exact h connection (List.mem_cons_of_mem _ hmem)

theorem bringsNone_nil (x : Dialogue) : x.BringsNone [] := by
  intro before m since tables h
  cases before <;> cases h

theorem BringsNone.snoc (h : x.BringsNone history)
    (hm : ∀ tables, ¬ (x.after history).Brings m tables) : x.BringsNone (history ++ [m]) := by
  intro before e since tables hsplit
  rcases snoc_eq_split_iff.1 hsplit with ⟨rfl, rfl, -⟩ | ⟨since', -, hsplit⟩
  · exact hm tables
  · exact h before e since' tables hsplit

theorem BringsNone.cons (h : x.BringsNone (m :: since)) :
    (∀ tables, ¬ x.Brings m tables) ∧ (x.step m).BringsNone since := by
  refine ⟨fun tables => h [] m since tables rfl, fun before e since tables he => ?_⟩
  exact h (m :: before) e since tables (congrArg (m :: ·) he)

theorem FetchedNothing.snoc (h : FetchedNothing first history)
    (hswitch : ∀ connection, m ≠ .switch connection)
    (hm : ∀ tables, ¬ (first.after history).Brings m tables) :
    FetchedNothing first (history ++ [m]) := by
  obtain ⟨before, since, rfl, hbefore, hsince, hnone⟩ := h
  refine ⟨before, since ++ [m], List.append_assoc .., hbefore, hsince.snoc hswitch, ?_⟩
  rw [after_append] at hm
  exact hnone.snoc hm

theorem Fetched.snoc {t : TableTicket} {asked : String} (h : Fetched first history t asked tables)
    (hswitch : ∀ connection, m ≠ .switch connection)
    (hm : ∀ tables, ¬ (first.after history).Brings m tables) :
    Fetched first (history ++ [m]) t asked tables := by
  obtain ⟨before, n, since, rfl, hbrings, hissued, hsince, hnone⟩ := h
  refine ⟨before, n, since ++ [m], ?_, hbrings, hissued, hsince.snoc hswitch, ?_⟩
  · rw [List.append_assoc, List.cons_append]
  · rw [after_append] at hm
    exact hnone.snoc hm

/-! ## What a move brings -/

/-- **A move brings tables exactly if** it is a response that holds them, to a ticket that is
current. -/
theorem brings_iff : x.Brings m tables ↔
    ∃ n t asked, m = .tables n asked (.ok tables) ∧ x.tickets[n]? = some (.tables t) ∧
      t.generation = x.session.refresh.generation := by
  constructor
  · intro h
    cases x.heard m with
    | lost hm =>
      rw [Brings, turn_lost hm] at h
      cases h
    | own a ha => exact absurd (Option.some.inj h) (Session.act_ne_tables ha _)
    | schemas ht connection result =>
      rw [Brings, turn_schemas ht] at h
      cases Option.some.inj h
    | @tables n t ht asked result =>
      rw [Brings, turn_tables ht] at h
      obtain ⟨hc, rfl⟩ :=
        Session.applyTables_current_iff.1 (Reply.tables.inj (Option.some.inj h))
      exact ⟨n, t, asked, rfl, ht, Refresh.isCurrent_iff.1 hc⟩
  · rintro ⟨n, t, asked, rfl, ht, hg⟩
    rw [Brings, turn_tables ht,
      Session.applyTables_of_ok (Refresh.isCurrent_iff.2 hg) (rfl : _ = Except.ok tables)]
    rfl

/-- The tables of a move that brings them are the catalog. -/
theorem catalog_of_brings {asked : String}
    (h : x.Brings (.tables n asked (.ok tables)) tables) :
    (x.step (.tables n asked (.ok tables))).session.catalog =
      .ofTables (Session.schemaLabel asked tables) tables := by
  obtain ⟨n, t, asked, he, ht, hg⟩ := brings_iff.1 h
  cases he
  rw [step_tables ht,
    Session.applyTables_of_ok (Refresh.isCurrent_iff.2 hg) (rfl : _ = Except.ok tables)]
  exact x.session.catalog_takeTables asked tables

/-- **A move that neither switches the connection nor brings tables leaves the catalog.** -/
theorem catalog_step (hswitch : ∀ connection, m ≠ .switch connection)
    (hm : ∀ tables, ¬ x.Brings m tables) : (x.step m).session.catalog = x.session.catalog := by
  cases x.heard m with
  | lost h => rw [step_lost h]
  | own a ha =>
    have hswitch' (connection : Connection) : a ≠ .setConnection connection := fun h => by
      subst h
      exact hswitch _ rfl
    exact (Session.lasts_act hswitch' fun tables => Session.act_ne_tables ha _).catalog
  | schemas ht connection result =>
    rw [step_schemas ht]
    exact (x.session.lasts_applySchemas _).catalog
  | tables ht asked result =>
    rw [step_tables ht]
    refine (Session.lasts_applyTables fun tables h => hm tables ?_).catalog
    rw [Brings, turn_tables ht]
    exact congrArg (some ∘ Reply.tables) h

theorem connection_step (hswitch : ∀ connection, m ≠ .switch connection) :
    (x.step m).session.connection = x.session.connection := by
  cases x.heard m with
  | lost h => rw [step_lost h]
  | own a ha =>
    exact (x.session.asks_act ha).connection_eq fun connection h => by
      subst h
      exact hswitch _ rfl
  | schemas ht connection result =>
    rw [step_schemas ht, Session.connection, Session.refresh_applySchemas,
      Refresh.connection_acceptSchemas]
    rfl
  | tables ht asked result =>
    rw [step_tables ht, Session.connection, Session.refresh_applyTables,
      Refresh.connection_acceptTables]
    rfl

/-! ## What stays between switches -/

/-- The connection stays the same. -/
theorem connection_after (h : Unswitched since) :
    (x.after since).session.connection = x.session.connection := by
  induction since generalizing x with
  | nil => rfl
  | cons m since ih =>
    obtain ⟨hm, hsince⟩ := h.cons
    exact (ih hsince).trans (connection_step hm)

/-- The catalog stays the same, unless tables come. -/
theorem catalog_after (hswitch : Unswitched since) (hnone : x.BringsNone since) :
    (x.after since).session.catalog = x.session.catalog := by
  induction since generalizing x with
  | nil => rfl
  | cons m since ih =>
    obtain ⟨hm, hswitch⟩ := hswitch.cons
    obtain ⟨hbrings, hnone⟩ := hnone.cons
    exact (ih hswitch hnone).trans (catalog_step hm hbrings)

/-- The tables that came last are the catalog. -/
theorem catalog_of_fetched {t : TableTicket} {asked : String}
    (h : Fetched first history t asked tables) :
    (first.after history).session.catalog =
      .ofTables (Session.schemaLabel asked tables) tables := by
  obtain ⟨before, n, since, rfl, hbrings, -, hswitch, hnone⟩ := h
  rw [after_append]
  exact (catalog_after hswitch hnone).trans (catalog_of_brings hbrings)

/-! ## The current ticket -/

theorem generation_step_le (x : Dialogue) (m : Move) :
    x.session.refresh.generation ≤ (x.step m).session.refresh.generation := by
  cases x.heard m with
  | lost h => exact Nat.le_of_eq (by rw [step_lost h])
  | own a ha => exact (x.session.asks_act ha).generation_le
  | schemas ht connection result =>
    refine Nat.le_of_eq ?_
    rw [step_schemas ht, Session.refresh_applySchemas, Exchange.generation_acceptSchemas]
  | tables ht asked result =>
    refine Nat.le_of_eq ?_
    rw [step_tables ht, Session.refresh_applyTables, Exchange.generation_acceptTables]

/-- **A ticket that is current was issued since the last switch.** -/
theorem issuedHere_of_current (hfirst : first.Stamped) (hnone : first.tickets = []) {t : Ticket}
    (ht : (first.after history).tickets[n]? = some t)
    (hg : t.generation = (first.after history).session.refresh.generation) :
    IssuedHere first history n t := by
  induction history using List.reverseRecOn with
  | nil =>
    rw [after, List.foldl_nil, hnone] at ht
    cases ht
  | append_singleton history m ih =>
    rw [after_snoc] at ht hg
    rw [step, List.getElem?_append] at ht
    split at ht
    · -- An old ticket would be of an old generation, had the move taken a new one.
      have hle := (hfirst.after history).bounded t (List.mem_of_getElem? ht)
      have hgrow := (first.after history).generation_step_le m
      obtain ⟨before, e, since, rfl, hn, hissued, hsince⟩ := ih ht (by omega)
      refine ⟨before, e, since ++ [m], ?_, hn, hissued, hsince.snoc fun connection hm => ?_⟩
      · rw [List.append_assoc, List.cons_append]
      · have hnew : ((first.after (before ++ e :: since)).step m).session.refresh.generation =
            (first.after (before ++ e :: since)).session.refresh.generation + 1 := by
          rw [hm]
          rfl
        omega
    · next hn =>
      obtain ⟨hlt, -⟩ := List.getElem?_eq_some_iff.1 ht
      have hone := Option.length_toList_le
        (o := (((first.after history).turn m).result.bind Reply.ticket?))
      have hlen : (first.after history).tickets.length = n := by omega
      refine ⟨history, m, [], rfl, hlen, ?_, unswitched_nil⟩
      rw [step, List.getElem?_append_right (Nat.le_of_eq hlen)]
      exact ht

/-! ## The source of the catalog -/

/-- **The catalog holds what came last from the connection the session is on.** -/
theorem catalog_source (hfirst : first.Stamped) (hnone : first.tickets = [])
    (hempty : first.session.catalog = {}) (history : List Move) :
    (FetchedNothing first history ∧ (first.after history).session.catalog = {}) ∨
      ∃ t asked tables, Fetched first history t asked tables ∧
        (first.after history).session.catalog =
          .ofTables (Session.schemaLabel asked tables) tables ∧
        t.connection = (first.after history).session.connection := by
  induction history using List.reverseRecOn with
  | nil => exact .inl ⟨⟨[], [], rfl, .inl rfl, unswitched_nil, bringsNone_nil _⟩, hempty⟩
  | append_singleton history m ih =>
    rw [after_snoc]
    by_cases hswitch : ∃ connection, m = .switch connection
    · obtain ⟨connection, rfl⟩ := hswitch
      refine .inl ⟨⟨history ++ [.switch connection], [], (List.append_nil _).symm,
        .inr ⟨history, connection, rfl⟩, unswitched_nil, bringsNone_nil _⟩, rfl⟩
    rw [not_exists] at hswitch
    by_cases hbrings : ∃ tables, (first.after history).Brings m tables
    · obtain ⟨tables, hm⟩ := hbrings
      obtain ⟨n, t, asked, rfl, ht, hg⟩ := brings_iff.1 hm
      have hissued : IssuedHere first history n (.tables t) :=
        issuedHere_of_current hfirst hnone ht hg
      have hconnection : t.connection = (first.after history).session.connection :=
        (hfirst.after history).current_connection _ (List.mem_of_getElem? ht) hg
      refine .inr ⟨t, asked, tables, ⟨history, n, [], rfl, hm, hissued, unswitched_nil,
        bringsNone_nil _⟩, catalog_of_brings hm, ?_⟩
      exact hconnection.trans (connection_step hswitch).symm
    · rw [not_exists] at hbrings
      rw [catalog_step hswitch hbrings, connection_step hswitch]
      rcases ih with ⟨hnothing, hcatalog⟩ | ⟨t, asked, tables, hfetched, hcatalog, hconnection⟩
      · exact .inl ⟨hnothing.snoc hswitch hbrings, hcatalog⟩
      · exact .inr ⟨t, asked, tables, hfetched.snoc hswitch hbrings, hcatalog, hconnection⟩

/-- **Tables and context come from one connection.**  After any moves, either no tables came since
the last switch and catalog, selection and joins are empty, or the catalog is made of the tables
that came last, in response to a ticket that was issued since the last switch and for the connection
the session is on.  So a snapshot that is committed names the connection that all its tables were
fetched from, and the schema of those tables. -/
theorem tables_of_connection (id : String) (connection : Connection) (mode : Mode)
    (saved : Option SavedConfig) (history : List Move) :
    let first := start id connection mode saved
    let s := (first.after history).session
    ((FetchedNothing first history ∧ s.catalog = {} ∧ s.selection = {} ∧ s.joins = {}) ∨
      ∃ t asked tables, Fetched first history t asked tables ∧
        s.catalog = .ofTables (Session.schemaLabel asked tables) tables ∧
        t.connection = s.connection) ∧
    ∀ sink now name snapshot sink', s.commit sink now name = .ok (snapshot, sink') →
      ∃ t asked tables, Fetched first history t asked tables ∧
        snapshot.context = t.connection.context ∧ snapshot.connection = t.connection.name ∧
        snapshot.tables ⊆ tables ∧ snapshot.schema = s.catalog.schema ∧
        snapshot.schema = Session.schemaLabel asked tables := by
  intro first s
  have hc : s.Consistent :=
    consistent_after (Session.consistent_start id connection mode saved) history
  have hsource := catalog_source (stamped_start id connection mode saved) rfl rfl history
  constructor
  · rcases hsource with ⟨hnothing, hcatalog⟩ | hfetched
    · have hselection : s.selection.tables = [] := by
        refine hc.selection_eq_nil ?_
        rw [show s.catalog = {} from hcatalog]
      have hjoins := hc.joins_eq_nil hselection
      exact .inl ⟨hnothing, hcatalog, congrArg Selection.mk hselection,
        congrArg JoinGraph.mk hjoins⟩
    · exact .inr hfetched
  · intro sink now name snapshot sink' hcommit
    obtain ⟨hne, rfl⟩ := Session.selection_ne_nil_of_commit hcommit
    rcases hsource with ⟨-, hcatalog⟩ | ⟨t, asked, tables, hfetched, hcatalog, hconnection⟩
    · refine absurd (hc.selection_eq_nil ?_) hne
      rw [show s.catalog = {} from hcatalog]
    · have hschema : s.catalog.schema = Session.schemaLabel asked tables :=
        congrArg Catalog.schema hcatalog
      refine ⟨t, asked, tables, hfetched, congrArg Connection.context hconnection.symm,
        congrArg Connection.name hconnection.symm, fun u hu => ?_, rfl, hschema⟩
      have hmem : u ∈ s.catalog.tables := Table.mem_of_named? (hc.selection_defined u hu)
      rw [show s.catalog = _ from hcatalog] at hmem
      exact (Table.firstOfName_sublist tables).subset hmem

end Dialogue
end JoinWizard
