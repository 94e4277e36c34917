/-
# What `inspect` does when it saves

A command line that is well formed runs its command under the settings that go with it, and reports
what the command gives, or what went wrong.  Every failure ends with code 1 (`FailsLoudly`), so a
run that ends with code 0 is what the command gives (`runOn_inspect`).

What the command gives is what its steps give, one on the workspace that the other left:

| step | gives |
| --- | --- |
| `gives_inspect` | connection and path of the store, which depend on settings and environment |
| `gives_withStore` | the store, before and after its use |
| `gives_inspectWith` | the session that the document settles, its commit if the gates are open |

These are equivalences: a run that has come to its end is taken apart by them, and another one is
put together.
-/

import JoinWizard.Proofs.Cli.Play
import JoinWizard.Proofs.Session.Commit
import JoinWizard.Proofs.Settings

namespace JoinWizard
namespace Cli

variable {w w' : Workspace} {report : Report}

/-! ## Reports of failure -/

section

variable {α β ε : Type} {x : ExceptT Report (StateM Workspace) α}

/-- Whether a program that ends with a report of what went wrong ends with the code for that. -/
def FailsLoudly (x : ExceptT Report (StateM Workspace) α) : Prop :=
  ∀ w e, (x.run.run w).1 = .error e → e.code = 1

namespace FailsLoudly

theorem of_gives (h : ∀ w, ∃ a v, Gives x w a v) : FailsLoudly x := by
  intro w e he
  obtain ⟨a, v, ha⟩ := h w
  have hok : (x.run.run w).1 = .ok a := congrArg Prod.fst ha
  rw [hok] at he
  cases he

theorem pure (a : α) : FailsLoudly (Pure.pure a : ExceptT Report (StateM Workspace) α) := nofun

theorem lift (y : StateM Workspace α) :
    FailsLoudly (ExceptT.lift y : ExceptT Report (StateM Workspace) α) := nofun

theorem throw {e : Report} (h : e.code = 1) :
    FailsLoudly (MonadExcept.throw e : ExceptT Report (StateM Workspace) α) := by
  intro w e' he
  cases he
  exact h

theorem orReport (describe : ε → String) (y : ExceptT ε (StateM Workspace) α) :
    FailsLoudly (orReport describe y) := by
  intro w e he
  have hrun : ((Cli.orReport describe y).run.run w).1 =
      (y.run.run w).1.mapError fun e => Report.failure (describe e) := rfl
  rw [hrun] at he
  cases hy : (y.run.run w).1 with
  | ok a => rw [hy] at he; cases he
  | error cause => rw [hy] at he; cases he; rfl

theorem bind {f : α → ExceptT Report (StateM Workspace) β} (hx : FailsLoudly x)
    (hf : ∀ a, FailsLoudly (f a)) : FailsLoudly (x >>= f) := by
  intro w e he
  rw [run_bind] at he
  cases hresult : (x.run.run w).1 with
  | ok a => rw [hresult] at he; exact hf a _ e he
  | error cause => rw [hresult] at he; cases he; exact hx w _ hresult

end FailsLoudly
end

theorem failsLoudly_unlessFailed {α : Type} (t : Turn (Accepted α)) :
    FailsLoudly (unlessFailed (m := StateM Workspace) t) := by
  unfold unlessFailed
  split
  · exact .throw rfl
  · exact .pure _

theorem failsLoudly_playSession (s : Session) (schema : Option String) :
    FailsLoudly (playSession (m := StateM Workspace) s schema) := by
  have hschemas (t : SchemaTicket) :
      FailsLoudly (t.run (CatalogFile.provider (m := ExceptT Report (StateM Workspace)))) := by
    rw [SchemaTicket.run, map_eq_pure_bind]
    exact .bind (.of_gives fun w => ⟨_, w, CatalogFile.gives_schemas rfl⟩) fun _ => .pure _
  have htables (t : TableTicket) :
      FailsLoudly (t.run (CatalogFile.provider (m := ExceptT Report (StateM Workspace)))) := by
    rw [TableTicket.run, map_eq_pure_bind]
    exact .bind (.of_gives fun w => ⟨_, w, CatalogFile.gives_tables rfl _⟩) fun _ => .pure _
  unfold playSession
  refine .bind (.bind (hschemas _) fun _ => .pure _) fun t => ?_
  refine .bind (failsLoudly_unlessFailed t) fun s => ?_
  dsimp only
  split
  · exact .bind (htables _) fun _ => failsLoudly_unlessFailed _
  · exact .pure _

theorem failsLoudly_savedConfig (settings : Settings) (options : InspectOptions) (c : Connection)
    (store : Option Store) :
    FailsLoudly (savedConfig (m := StateM Workspace) settings options c store) := by
  unfold savedConfig
  split
  · exact .bind (.orReport _ _) fun _ => .pure _
  · split
    · exact .orReport _ _
    · exact .pure _
  · exact .pure _

theorem failsLoudly_withStore {α : Type} (path : String)
    {use : Store → ExceptT Report (StateM Workspace) α} (h : ∀ s, FailsLoudly (use s)) :
    FailsLoudly (withStore path use) := by
  unfold withStore
  refine .bind (.orReport _ _) fun s => ?_
  -- What came of the use is kept over the closing of the store, and ends the program after it.
  intro w e he
  have hrun : ((ExceptT.lift (use s).run >>= fun result =>
      Machine.closeStore path >>= fun _ => ExceptT.mk (Pure.pure result) :
        ExceptT Report (StateM Workspace) α).run.run w).1 = ((use s).run.run w).1 := rfl
  rw [hrun] at he
  exact h s w e he

theorem failsLoudly_inspectWith (settings : Settings) (options : InspectOptions) (c : Connection)
    (place : Option (String × String × Store)) :
    FailsLoudly (inspectWith (m := StateM Workspace) settings options c place) := by
  unfold inspectWith
  refine .bind (failsLoudly_savedConfig _ _ _ _) fun saved => ?_
  refine .bind (failsLoudly_playSession _ _) fun u => ?_
  dsimp only
  split
  · exact .pure _
  · refine .bind (.lift _) fun now => ?_
    split
    · refine .bind (.lift _) fun written => ?_
      split <;> exact .pure _
    · exact .pure _
    · exact .pure _

theorem failsLoudly_inspect (settings : Settings) (options : InspectOptions) :
    FailsLoudly (inspect (m := StateM Workspace) settings options) := by
  have hpath : FailsLoudly (storePath (m := StateM Workspace) settings) := by
    unfold storePath
    refine .bind (.orReport _ _) fun path => ?_
    split
    · exact .pure _
    · exact .orReport _ _
  unfold inspect
  refine .bind (.orReport _ _) fun c => ?_
  split
  · exact failsLoudly_inspectWith _ _ _ _
  · exact .bind hpath fun path =>
      failsLoudly_withStore path fun s => failsLoudly_inspectWith _ _ _ _

/-! ## Runs -/

/-- The path of the store depends on the settings and the environment alone. -/
theorem readsEnvironment_storePath (settings : Settings) :
    ReadsEnvironment (storePath (m := StateM Workspace) settings) := by
  unfold storePath
  refine .bind ((Settings.readsEnvironment_storePath settings).adapt _) fun path => ?_
  split
  · exact .pure _
  · exact readsEnvironment_defaultStorePath.adapt _

/-- The settings of a run: those of the file that is named, or else the usual ones. -/
def loadSettings (file? : Option String) : ExceptT SettingsError (StateM Workspace) Settings :=
  match file? with
  | some path => Settings.ofFile path
  | none => Settings.load

theorem keepsState_loadSettings (file? : Option String) : KeepsState (loadSettings file?) := by
  unfold loadSettings
  split
  · exact Settings.keepsState_ofFile _
  · exact Settings.keepsState_load

variable {args : List String} {file? : Option String} {options : InspectOptions}
  {settings : Settings} {c : Connection} {path name : String}
  {use : Store → ExceptT Report (StateM Workspace) Report}

/-- What a command line reports on a workspace, and the workspace that it leaves. -/
def runOn (w : Workspace) (args : List String) : Report × Workspace :=
  (run (m := StateM Workspace) args).run w

/-- **A run that ends well is one of the command under its settings.** -/
theorem runOn_inspect (hargs : parse args = .ok ⟨file?, .inspect options⟩)
    (hsettings : ((loadSettings file?).run.run w).1 = .ok settings) (hcode : report.code = 0) :
    runOn w args = (report, w') ↔ Gives (inspect settings options) w report w' := by
  have hload : Gives (orReport (fun e => "Error loading settings: " ++ e.message)
      (loadSettings file?)) w settings w :=
    gives_adapt.2 (Prod.ext hsettings (keepsState_loadSettings file? w))
  have hcommand : Gives (runCommand ⟨file?, .inspect options⟩) w report w' ↔
      Gives (inspect settings options) w report w' := hload.bind_iff
  have hloud : FailsLoudly (runCommand ⟨file?, .inspect options⟩) :=
    .bind (.orReport _ _) fun settings => failsLoudly_inspect settings options
  rw [← hcommand, runOn, run, hargs, Gives]
  rcases hrun : (runCommand (m := StateM Workspace) ⟨file?, .inspect options⟩).run.run w with
    ⟨result, v⟩
  dsimp only
  rw [StateT.run_bind, hrun]
  cases result with
  | ok r => constructor <;> rintro ⟨⟩ <;> rfl
  | error e =>
    refine iff_of_false (fun h => ?_) (fun h => by cases h)
    cases h
    have hfailed := hloud w report (congrArg Prod.fst hrun)
    rw [hcode] at hfailed
    cases hfailed

/-- **A store is used between its opening and its closing.** -/
theorem gives_withStore : Gives (withStore path use) w report w' ↔
    ∃ s v v', (Machine.openStore path : StateM Workspace _).run w = (.ok s, v) ∧
      Gives (use s) v report v' ∧
      ((Machine.closeStore path : StateM Workspace _).run v').2 = w' := by
  have hopen (s : Store) (v : Workspace) :
      Gives (orReport (fun e : StoreError => "Error opening store: " ++ e.message)
          (ExceptT.mk (Machine.openStore path : StateM Workspace _))) w s v ↔
        (Machine.openStore path : StateM Workspace _).run w = (.ok s, v) := gives_adapt
  have hused (s : Store) (v : Workspace) :
      (ExceptT.lift (use s).run >>= fun result => Machine.closeStore path >>= fun _ =>
          ExceptT.mk (Pure.pure result) : ExceptT Report (StateM Workspace) Report).run.run v =
        (((use s).run.run v).1,
          ((Machine.closeStore path : StateM Workspace _).run ((use s).run.run v).2).2) := rfl
  unfold withStore
  rw [gives_bind]
  constructor
  · rintro ⟨s, v, hs, hrest⟩
    rw [Gives, hused s v] at hrest
    obtain ⟨hreport, hclosed⟩ := Prod.mk.inj hrest
    exact ⟨s, v, _, (hopen s v).1 hs, Prod.ext hreport rfl, hclosed⟩
  · rintro ⟨s, v, v', hs, huse, hclosed⟩
    refine ⟨s, v, (hopen s v).2 hs, ?_⟩
    rw [Gives, hused s v, show (use s).run.run v = (.ok report, v') from huse, ← hclosed]

/-- The command `inspect` with a name to save under uses the store. -/
theorem gives_inspect (hname : options.save = some name)
    (hconnection : ((settings.connection (m := StateM Workspace) options.connection).run.run w).1 =
      .ok c)
    (hpath : ((storePath (m := StateM Workspace) settings).run.run w).1 = .ok path) :
    Gives (inspect settings options) w report w' ↔
      Gives (withStore path fun s => inspectWith settings options c (some (name, path, s)))
        w report w' := by
  have hc : Gives (connectionOf settings options.connection) w c w :=
    gives_adapt.2 ((Settings.readsEnvironment_connection settings _).gives rfl hconnection)
  have hp : Gives (storePath settings) w path w :=
    (readsEnvironment_storePath settings).gives rfl hpath
  unfold inspect
  rw [hc.bind_iff, hname]
  exact hp.bind_iff

/-- The mode that a session is played in. -/
def playMode (settings : Settings) (options : InspectOptions) : Mode :=
  options.mode.getD (.ofStar settings.wizard.starModeling)

/-- What a session has configured is shown, with the commit that it was taken in. -/
def committedReport (u : Session) (name : String) : Report where
  out := unlines (sessionLines u) ++ unlines ["", commitLine (u.snapshot name)]

/-- **A use that ends well:** the document settles how the session has been played, its gates are
open, and its configuration is written. -/
theorem gives_inspectWith {found : Except SourceError SourceDocument} {s : Store}
    {saved : Option SavedConfig}
    (hfound : ((CatalogFile.document (m := StateM Workspace) c).run.run w).1 = found)
    (hsaved : Gives (savedConfig settings options c (some s)) w saved w) (hcode : report.code = 0) :
    Gives (inspectWith settings options c (some (name, path, s))) w report w' ↔
      ∃ d tables u, found = .ok d ∧ d.tablesIn (askedFor c d options.schema) = .ok tables ∧
        ended c (playMode settings options) saved d options.schema tables = u ∧
       u.gates.canComplete = true ∧ report = committedReport u name ∧
        (Machine.writeStore path (s.commit (u.snapshot name) w.clock) : StateM Workspace _).run w =
          (.ok (), w') := by
  have hnow : Gives (Machine.now : ExceptT Report (StateM Workspace) Int64) w w.clock w := rfl
  unfold inspectWith
  dsimp only
  rw [show Option.map _ (some (name, path, s)) = some s from rfl, hsaved.bind_iff, gives_bind]
  constructor
  · rintro ⟨u, v, hplay, hcommit⟩
    obtain ⟨d, tables, hd, htables, hu, rfl⟩ := (gives_playSession hfound).1 hplay
    refine ⟨d, tables, u, hd, htables, hu, ?_⟩
    rw [hnow.bind_iff] at hcommit
    by_cases hopen : u.gates.canComplete = true
    · rw [Session.commit_store_of_open hopen] at hcommit
      obtain ⟨result, v, hwrite, hresult⟩ := gives_bind.1 hcommit
      cases result with
      | error e =>
        obtain ⟨rfl, -⟩ := gives_pure.1 hresult
        cases hcode
      | ok _ =>
        obtain ⟨rfl, rfl⟩ := gives_pure.1 hresult
        exact ⟨hopen, rfl, gives_lift.1 hwrite⟩
    · rw [Session.commit_store_of_closed hopen] at hcommit
      obtain ⟨rfl, -⟩ := gives_pure.1 hcommit
      cases hcode
  · rintro ⟨d, tables, u, hd, htables, hu, hopen, rfl, hwrite⟩
    refine ⟨u, w, (gives_playSession hfound).2 ⟨d, tables, hd, htables, hu, rfl⟩, ?_⟩
    rw [hnow.bind_iff, Session.commit_store_of_open hopen]
    exact gives_bind.2 ⟨_, w', gives_lift.2 hwrite, rfl⟩

/-- Looking for the configuration to restore changes nothing. -/
theorem keepsState_savedConfig (settings : Settings) (options : InspectOptions) (c : Connection)
    (store : Option Store) :
    KeepsState (savedConfig (m := StateM Workspace) settings options c store) := by
  have hfile (path : String) : KeepsState (SavedConfig.loadFile (m := StateM Workspace) path) := by
    unfold SavedConfig.loadFile
    refine .bind (keepsState_readText _) fun text => ?_
    split <;> exact fun _ => rfl
  unfold savedConfig
  split
  · exact .bind ((hfile _).adapt _) fun _ _ => rfl
  · split <;> exact fun _ => rfl
  · exact fun _ => rfl

end Cli
end JoinWizard
