/-
# What reaches a sink

A sink takes in a snapshot or refuses it, for reasons of its own and perhaps with a state of its
own.  What reaches it depends on the session alone, so here the sink is any sink at all
(`Session.commitTo`), and what it is handed is watched (`Sink.watched`).  For the sinks there are
this is `Session.commit` (`Session.commitTo_sink`), and a sink in memory holds just what was
recorded (`Wizard.memory_eq_recorded`).

| gates the host was told last | sink | given back | recorded |
| --- | --- | --- | --- |
| both closed | not called | `notReady` | nothing |
| one of them open | takes the snapshot in | the snapshot | the snapshot |
| one of them open | refuses it | its refusal | nothing |

Open gates say only how much is selected and whether a fact table is chosen.  That the rest of the
snapshot is sound too follows from the consistency of the model: the gate looks the fact table up in
the selection and the snapshot copies its name, and the two agree because no other name is kept.
-/

import JoinWizard.Proofs.Session.Notices
import JoinWizard.Session.Commit

namespace JoinWizard

open Notice (lastGates sentGates sentGates_append)

/-- Why a sink does not take in a snapshot. -/
inductive Refusal where
  | rejected (reason : String)
  | store (cause : StoreError)

/-- A refusal as the error of a commit. -/
def Refusal.error : Refusal → CommitError
  | rejected reason => .rejected reason
  | store cause => .store cause

/-- A refusal is not taken for closed gates. -/
theorem Refusal.error_ne_notReady (refusal : Refusal) (gates : Gates) :
    refusal.error ≠ .notReady gates := by
  cases refusal <;> exact fun h => nomatch h

/-- Where snapshots are committed.  `m` is where the answers come from. -/
structure Sink (m : Type → Type) where
  take : Snapshot → m (Except Refusal Unit)

/-- Commits a session to a sink under a name: the snapshot the sink took in. -/
def Session.commitTo {m : Type → Type} [Monad m] (s : Session) (sink : Sink m) (name : String) :
    m (Except CommitError Snapshot) :=
  if s.gates.canComplete then do
    match ← sink.take (s.snapshot name) with
    | .ok () => return .ok (s.snapshot name)
    | .error refusal => return .error refusal.error
  else return .error (.notReady s.gates)

/-- The sinks there are, at a time. -/
def CommitSink.sink (now : Int64) : Sink (StateM CommitSink) where
  take snapshot := fun sink =>
    match sink with
    | memory snapshots => (.ok (), memory (snapshots ++ [snapshot]))
    | rejecting reason => (.error (.rejected reason), rejecting reason)
    | store s => (.ok (), store (s.commit snapshot now))

/-- **A commit to one of the sinks there are** is that commit to any sink. -/
theorem Session.commitTo_sink (s : Session) (sink : CommitSink) (now : Int64) (name : String) :
    (s.commitTo (CommitSink.sink now) name).run sink =
      match s.commit sink now name with
      | .ok (snapshot, after) => (.ok snapshot, after)
      | .error e => (.error e, sink) := by
  unfold commitTo commit
  split
  · cases sink <;> rfl
  · rfl

/-- A sink's state, what it was handed, and what of that it took in. -/
structure Watched (σ : Type) where
  state : σ
  received : List Snapshot := []
  recorded : List Snapshot := []

namespace Watched

variable {σ : Type}

/-- The sink was handed a snapshot and took it in. -/
def took (w : Watched σ) (snapshot : Snapshot) (state : σ) : Watched σ :=
  ⟨state, w.received ++ [snapshot], w.recorded ++ [snapshot]⟩

/-- The sink was handed a snapshot and refused it. -/
def refused (w : Watched σ) (snapshot : Snapshot) (state : σ) : Watched σ :=
  ⟨state, w.received ++ [snapshot], w.recorded⟩

end Watched

/-- The sink, with a record of what reaches it. -/
def Sink.watched {σ : Type} (sink : Sink (StateM σ)) : Sink (StateM (Watched σ)) where
  take snapshot := fun w =>
    match (sink.take snapshot).run w.state with
    | (.ok (), state) => (.ok (), w.took snapshot state)
    | (.error refusal, state) => (.error refusal, w.refused snapshot state)

/-- One thing that is done: an action on the session, or a commit under a name. -/
inductive Deed where
  | act (action : Action)
  | commit (name : String)

/-- A session with all its host was told and the sink it commits to. -/
structure Wizard (σ : Type) where
  session : Session
  told : List Notice := []
  seen : Watched σ

/-- What a completed configuration is: it has tables, its joins are sound, a fact table is one of
its tables, and a star of more than one table has a fact table. -/
structure Snapshot.Complete (s : Snapshot) : Prop where
  tables_ne_nil : s.tables ≠ []
  joins_sound : (JoinGraph.mk s.joins).Sound ⟨s.tables⟩
  fact_selected : ∀ name, s.factTable = some name → name ∈ Table.names s.tables
  star_fact : s.mode = .star → 1 < s.tables.length → ∃ name, s.factTable = some name

namespace Wizard

variable {σ : Type} {sink : Sink (StateM σ)} {w : Wizard σ}

/-- A wizard with a session that starts, before anything reached its sink. -/
def start (id : String) (connection : Connection) (mode : Mode) (saved : Option SavedConfig)
    (state : σ) : Wizard σ where
  session := .start id connection mode saved
  seen := { state }

/-- Commits the session under a name: what is given back, and the wizard after it. -/
def commit (w : Wizard σ) (sink : Sink (StateM σ)) (name : String) :
    Except CommitError Snapshot × Wizard σ :=
  let (result, seen) := (w.session.commitTo sink.watched name).run w.seen
  (result, { w with seen })

/-- The wizard after one deed. -/
def step (sink : Sink (StateM σ)) (w : Wizard σ) : Deed → Wizard σ
  | .act a =>
    { w with session := (w.session.act a).session, told := w.told ++ (w.session.act a).notices }
  | .commit name => (w.commit sink name).2

/-- The wizard after some deeds. -/
def after (sink : Sink (StateM σ)) (w : Wizard σ) (deeds : List Deed) : Wizard σ :=
  deeds.foldl (step sink) w

/-- What a commit does, for the gates the host was told last. -/
structure CommitsByGates (sink : Sink (StateM σ)) (w : Wizard σ) (name : String) : Prop where
  notReady_iff : (∃ gates, (w.commit sink name).1 = .error (.notReady gates)) ↔
    (lastGates w.told).canComplete = false
  /-- With both gates closed the sink is not called. -/
  closed : (lastGates w.told).canComplete = false → (w.commit sink name).2 = w
  /-- A sink that accepts has got the snapshot that is given back, and once. -/
  accepted : ∀ state, (lastGates w.told).canComplete = true →
    (sink.take (w.session.snapshot name)).run w.seen.state = (.ok (), state) →
      w.commit sink name = (.ok (w.session.snapshot name),
        { w with seen := w.seen.took (w.session.snapshot name) state })
  /-- A sink that refuses has got the snapshot too, but records nothing. -/
  refused : ∀ refusal state, (lastGates w.told).canComplete = true →
    (sink.take (w.session.snapshot name)).run w.seen.state = (.error refusal, state) →
      w.commit sink name = (.error refusal.error,
        { w with seen := w.seen.refused (w.session.snapshot name) state })
  /-- For the sinks there are, a commit to a sink is the session's own commit. -/
  commitTo_eq : ∀ (kind : CommitSink) (now : Int64),
    (w.session.commitTo (CommitSink.sink now) name).run kind =
      match w.session.commit kind now name with
      | .ok (snapshot, after) => (.ok snapshot, after)
      | .error e => (.error e, kind)
  /-- So that goes by these gates too. -/
  of_commitSink : ∀ (kind : CommitSink) (now : Int64), w.session.commit kind now name =
    if (lastGates w.told).canComplete then
      (kind.accept now (w.session.snapshot name)).map fun kind => (w.session.snapshot name, kind)
    else .error (.notReady (lastGates w.told))

end Wizard

/-! ## Complete models -/

namespace Session

variable {s : Session}

/-- **A consistent session with an open gate has a complete model.** -/
theorem complete_snapshot (hc : s.Consistent) (h : s.gates.canComplete = true) (name : String) :
    (s.snapshot name).Complete := by
  rw [Gates.canComplete, Bool.or_eq_true, valid_gates_iff hc, finishable_gates_iff hc] at h
  refine ⟨?_, hc.joins_sound, hc.fact_selected, fun hstar hmany => ?_⟩
  · have hpos : 0 < s.selection.size := by
      rcases h with ⟨-, hmany, -⟩ | ⟨-, hone | ⟨-, hfact⟩⟩
      · omega
      · omega
      · exact hc.size_pos hfact
    exact List.ne_nil_of_length_pos hpos
  · have hfact : s.fact.name ≠ none := by
      rcases h with ⟨-, -, hfact⟩ | ⟨-, hone | ⟨-, hfact⟩⟩
      · exact hfact hstar
      · exact absurd hone (Nat.ne_of_gt hmany)
      · exact hfact
    exact Option.ne_none_iff_exists'.1 hfact

end Session

namespace Wizard

variable {σ : Type} {sink : Sink (StateM σ)} {w : Wizard σ}

/-! ## One commit -/

theorem commit_of_closed (h : w.session.gates.canComplete = false) (name : String) :
    w.commit sink name = (.error (.notReady w.session.gates), w) := by
  rw [commit, Session.commitTo, if_neg (by simp [h])]
  rfl

/-- While a gate is open the sink is handed the snapshot, and what is given back is its answer. -/
theorem commit_of_open (h : w.session.gates.canComplete = true) (name : String) :
    w.commit sink name =
      match (sink.take (w.session.snapshot name)).run w.seen.state with
      | (.ok (), state) => (.ok (w.session.snapshot name),
          { w with seen := w.seen.took (w.session.snapshot name) state })
      | (.error refusal, state) => (.error refusal.error,
          { w with seen := w.seen.refused (w.session.snapshot name) state }) := by
  have hwatched : (sink.watched.take (w.session.snapshot name)).run w.seen =
      match (sink.take (w.session.snapshot name)).run w.seen.state with
      | (.ok (), state) => (.ok (), w.seen.took (w.session.snapshot name) state)
      | (.error refusal, state) =>
        (.error refusal, w.seen.refused (w.session.snapshot name) state) := rfl
  rw [commit, Session.commitTo, if_pos h, StateT.run_bind, hwatched]
  obtain ⟨_ | _, state⟩ := (sink.take (w.session.snapshot name)).run w.seen.state <;> rfl

/-! ## Runs -/

/-- What holds of a wizard at any time. -/
structure Kept (w : Wizard σ) : Prop where
  consistent : w.session.Consistent
  upToDate : w.session.UpToDate
  /-- The pair published last is the last one the host was told. -/
  published_told : w.session.published = lastGates w.told
  recorded_complete : ∀ snapshot ∈ w.seen.recorded, snapshot.Complete

theorem kept_start (id : String) (connection : Connection) (mode : Mode)
    (saved : Option SavedConfig) (state : σ) : (start id connection mode saved state).Kept where
  consistent := Session.consistent_start id connection mode saved
  upToDate := (Session.gates_of_selection_nil rfl).symm
  published_told := rfl
  recorded_complete _ h := absurd h List.not_mem_nil

/-- The gates of the session are those the host was told last. -/
theorem Kept.gates_eq (h : w.Kept) : w.session.gates = lastGates w.told :=
  h.upToDate.symm.trans h.published_told

/-- **A commit leaves the session alone, and records complete models only.** -/
theorem Kept.commit (h : w.Kept) (name : String) : (w.commit sink name).2.Kept := by
  cases hgates : w.session.gates.canComplete with
  | false =>
    rw [commit_of_closed hgates]
    exact h
  | true =>
    rw [commit_of_open hgates]
    split
    · refine ⟨h.consistent, h.upToDate, h.published_told, fun snapshot hs => ?_⟩
      rcases List.mem_append.1 hs with hs | hs
      · exact h.recorded_complete snapshot hs
      · rw [List.mem_singleton.1 hs]
        exact Session.complete_snapshot h.consistent hgates name
    · exact ⟨h.consistent, h.upToDate, h.published_told, h.recorded_complete⟩

/-- **An action keeps the host informed** and does not touch the sink. -/
theorem Kept.act (h : w.Kept) (a : Action) : (w.step sink (.act a)).Kept := by
  have hd := Session.disciplined_act h.consistent h.upToDate a
  refine ⟨h.consistent.act a, hd.upToDate h.upToDate, ?_, h.recorded_complete⟩
  show (w.session.act a).session.published = lastGates (w.told ++ (w.session.act a).notices)
  rw [hd.remembered, h.published_told, lastGates, lastGates, sentGates_append,
    List.getLast?_append]
  cases (sentGates (w.session.act a).notices).getLast? <;> rfl

theorem Kept.after (h : w.Kept) (deeds : List Deed) : (w.after sink deeds).Kept := by
  induction deeds generalizing w with
  | nil => exact h
  | cons deed deeds ih =>
    cases deed with
    | act a => exact ih (h.act a)
    | commit name => exact ih (h.commit name)

/-- **A commit goes by the gates the host was told last.** -/
theorem Kept.commitsByGates (h : w.Kept) (name : String) : w.CommitsByGates sink name := by
  have hgates := h.gates_eq
  refine ⟨?_, fun hclosed => ?_, fun state hopen ht => ?_, fun refusal state hopen ht => ?_,
    fun kind now => w.session.commitTo_sink kind now name, fun kind now => ?_⟩
  · rw [← hgates]
    cases hopen : w.session.gates.canComplete with
    | false =>
      rw [commit_of_closed hopen]
      exact iff_of_true ⟨_, rfl⟩ rfl
    | true =>
      rw [commit_of_open hopen]
      refine iff_of_false ?_ Bool.noConfusion
      split
      · exact fun ⟨gates, hready⟩ => nomatch hready
      · exact fun ⟨gates, hready⟩ => Refusal.error_ne_notReady _ gates (Except.error.inj hready)
  · rw [commit_of_closed (by rw [hgates, hclosed])]
  · rw [commit_of_open (by rw [hgates, hopen]), ht]
  · rw [commit_of_open (by rw [hgates, hopen]), ht]
  · rw [Session.commit, hgates]

/-- A sink in memory holds what was recorded. -/
theorem memory_eq_recorded {now : Int64} {w : Wizard CommitSink} (deeds : List Deed)
    (h : w.seen.state = .memory w.seen.recorded) :
    (w.after (CommitSink.sink now) deeds).seen.state =
      .memory (w.after (CommitSink.sink now) deeds).seen.recorded := by
  induction deeds generalizing w with
  | nil => exact h
  | cons deed deeds ih =>
    refine ih ?_
    cases deed with
    | act a => exact h
    | commit name =>
      show (w.commit (CommitSink.sink now) name).2.seen.state =
        .memory (w.commit (CommitSink.sink now) name).2.seen.recorded
      cases hgates : w.session.gates.canComplete with
      | false => rw [commit_of_closed hgates, h]
      | true =>
        rw [commit_of_open hgates, h]
        rfl

/-- **Only complete models are committed,** and only while the host knows of an open gate.  After
any run of actions and commits, with any sink, a commit is refused as not ready exactly if the pair
of gates the host was told last is closed, and the sink is not called then; else the sink is handed
the snapshot once, its answer is given back, and the session and what the host was told stay as they
are.  Every snapshot the sink has taken in is complete, and a sink in memory that began empty holds
these snapshots and no others. -/
theorem commits_complete_models (id : String) (connection : Connection) (mode : Mode)
    (saved : Option SavedConfig) (sink : Sink (StateM σ)) (state : σ) (deeds : List Deed) :
    let w := (start id connection mode saved state).after sink deeds
    (∀ name, w.CommitsByGates sink name) ∧ (∀ snapshot ∈ w.seen.recorded, snapshot.Complete) ∧
      ∀ now, let kept :=
          (start id connection mode saved (.memory [])).after (CommitSink.sink now) deeds
        kept.seen.state = .memory kept.seen.recorded := by
  intro w
  have hkept : w.Kept := (kept_start id connection mode saved state).after deeds
  exact ⟨hkept.commitsByGates, hkept.recorded_complete, fun now => memory_eq_recorded deeds rfl⟩

end Wizard
end JoinWizard
