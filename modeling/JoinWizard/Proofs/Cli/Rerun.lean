/-
# Saving and restoring reach a fixed point

`inspect --config f --save d` restores the configuration of a file, as far as the tables of the
source bear it out, and commits what came of it.  The same command without `--config` then restores
what was committed, and that is borne out as it stands: the second run reports what the first one
did, word for word, and of all rows in the store it changes only the one of `d`, and of that only
the time (`inspect_again`).

| the second run | has it from |
| --- | --- |
| settings, connection, path of the store | the settings file and the environment, as before |
| the store | its file, where the first run left it (`Workspace.openStore_again`) |
| the configuration | the row that the first run wrote, in the context of the connection |
| the session | the document, and that configuration (`ended_toConfig`) |

It takes a store that is kept in a file, and whose own files are not in its way
(`FileTree.KeptApart`).  Nothing keeps a store in memory, and each of the other conditions is needed
too (`not_inspect_again`).
-/

import JoinWizard.Proofs.Cli.Runs
import JoinWizard.Proofs.Files.Stores

namespace JoinWizard
namespace Cli

variable {args : List String} {file? : Option String} {options : InspectOptions}
  {settings : Settings} {c : Connection} {path name : String} {w w' : Workspace} {report : Report}

/-! ## Saving -/

/-- What happens when `inspect` saves what it configured: from the workspace `w` the store `s` is
opened, which leaves `v`; there `saved` is to be restored, and the session `u` that is played on
the document `d` is committed, which leaves `v'`. -/
structure Saving (settings : Settings) (options : InspectOptions) (c : Connection)
    (path name : String) (w : Workspace) (s : Store) (v : Workspace) (saved : Option SavedConfig)
    (d : SourceDocument) (u : Session) (v' : Workspace) : Prop where
  opened : (Machine.openStore path : StateM Workspace _).run w = (.ok s, v)
  restores : Gives (savedConfig settings options c (some s)) v saved v
  reads : ((CatalogFile.document (m := StateM Workspace) c).run.run v).1 = .ok d
  plays : ∃ tables, d.tablesIn (askedFor c d options.schema) = .ok tables ∧
    ended c (playMode settings options) saved d options.schema tables = u
  completes : u.gates.canComplete = true
  writes : (Machine.writeStore path (s.commit (u.snapshot name) v.clock) :
    StateM Workspace _).run v = (.ok (), v')

/-- **A run that saves and ends well**, and any other does not. -/
theorem runOn_iff_saving (hargs : parse args = .ok ⟨file?, .inspect options⟩)
    (hname : options.save = some name)
    (hsettings : ((loadSettings file?).run.run w).1 = .ok settings)
    (hconnection : ((settings.connection (m := StateM Workspace) options.connection).run.run w).1 =
      .ok c)
    (hpath : ((storePath (m := StateM Workspace) settings).run.run w).1 = .ok path)
    (hcode : report.code = 0) :
    runOn w args = (report, w') ↔
      ∃ s v saved d u v', Saving settings options c path name w s v saved d u v' ∧
        report = committedReport u name ∧
        ((Machine.closeStore path : StateM Workspace _).run v').2 = w' := by
  rw [runOn_inspect hargs hsettings hcode, gives_inspect hname hconnection hpath, gives_withStore]
  constructor
  · rintro ⟨s, v, v', hopen, huse, hclosed⟩
    obtain ⟨saved, v₁, hsaved, -⟩ := gives_bind.1 huse
    obtain rfl : v₁ = v :=
      (congrArg Prod.snd hsaved).symm.trans (keepsState_savedConfig settings options c (some s) v)
    obtain ⟨d, tables, u, hd, htables, hu, hgates, hreport, hwrite⟩ :=
      (gives_inspectWith rfl hsaved hcode).1 huse
    exact ⟨s, v₁, saved, d, u, v', ⟨hopen, hsaved, hd, ⟨tables, htables, hu⟩, hgates, hwrite⟩,
      hreport, hclosed⟩
  · rintro ⟨s, v, saved, d, u, v', hsaving, hreport, hclosed⟩
    obtain ⟨tables, htables, hu⟩ := hsaving.plays
    exact ⟨s, v, v', hsaving.opened, (gives_inspectWith hsaving.reads hsaving.restores hcode).2
      ⟨d, tables, u, rfl, htables, hu, hsaving.completes, hreport, hsaving.writes⟩, hclosed⟩

/-- The workspace while a store is open. -/
def whileOpen (w : Workspace) (path : String) : Workspace :=
  ((Machine.openStore path : StateM Workspace _).run w).2

namespace Saving

variable {s : Store} {v v' : Workspace} {saved : Option SavedConfig} {d : SourceDocument}
  {u : Session} {address : StoreAddress} {file : List UInt8} {place : List FileName}

theorem connection_eq (h : Saving settings options c path name w s v saved d u v') :
    u.connection = c := by
  obtain ⟨tables, -, hu⟩ := h.plays
  obtain ⟨config, hended⟩ := restored_of_canComplete (hu ▸ h.completes)
  rw [← hu, hended]
  rfl

/-- **What was saved is kept** at the place of the store after it was closed, and nothing but files
was changed.  From any workspace with these files in which the document is read as before, it is
saved again. -/
theorem again (h : Saving settings options c path name w s v saved d u v')
    (hkept : FileTree.KeptApart w.workDir path address file place)
    (hname : options.save = some name) (hrestore : settings.wizard.restoreSaved = true) :
    ∃ files, ((Machine.closeStore path : StateM Workspace _).run v').2 = { w with files } ∧
      files.storeAt place = .ok (s.commit (u.snapshot name) w.clock) ∧
      ∀ x : Workspace, x.workDir = w.workDir → x.files = files →
        ((CatalogFile.document (m := StateM Workspace) c).run.run (whileOpen x path)).1 = .ok d →
        ∃ x', Saving settings { options with config := none } c path name x
          (s.commit (u.snapshot name) w.clock) (whileOpen x path)
          (some (u.snapshot name).toConfig) d u x' := by
  obtain ⟨hready, hv, files, hclosed, hstore, hagain⟩ :=
    Workspace.openStore_again hkept h.opened h.writes
  have hclock : v.clock = w.clock := by rw [hv]
  rw [hclock] at hstore hagain
  refine ⟨files, hclosed, hstore, fun x hworkDir hfiles hreads => ?_⟩
  obtain ⟨x₁, hopen, -, hwrites⟩ := hagain hready x hworkDir hfiles
  obtain rfl : whileOpen x path = x₁ := congrArg Prod.snd hopen
  have hloaded : (s.commit (u.snapshot name) w.clock).loadConfig name c.context =
      .ok (some (u.snapshot name).toConfig) := by
    rw [← h.connection_eq]
    exact Session.loadConfig_of_commit (Session.commit_store_of_open h.completes) rfl
  obtain ⟨tables, htables, hu⟩ := h.plays
  obtain ⟨x', hwrite⟩ := hwrites _
  refine ⟨x', hopen, ?_, hreads, ⟨tables, htables, ended_toConfig hu h.completes⟩, h.completes,
    hwrite⟩
  unfold savedConfig
  rw [hname]
  dsimp only
  rw [if_pos hrestore, hloaded]
  rfl

end Saving

/-! ## Saving and restoring -/

deriving instance DecidableEq for InspectOptions, Command, Invocation

/-- A desk with the settings for a store at a path, which a variable says, the catalog file of a
shop with one table, a configuration of that table, and perhaps more files. -/
def shopDesk (store : String) (more : List (FileName × FileTree) := []) : Workspace where
  environment := [("STORE", store)]
  files :=
    let settings := "[wizard]\nrestore_saved=true\n[store]\npath=\"$STORE\"\n" ++
      "[connections.local]\ndriver=\"json\"\nconnection_string=\"shop.json\"\n"
    let catalog : SourceDocument := ⟨[{ name := "shop", tables := [{ name := "orders" }] }]⟩
    let config : SavedConfig := { tables := ["orders"] }
    .directory ((Utf8.bytes "multitable.toml", .file settings.toUTF8) ::
      (Utf8.bytes "shop.json", .file (toJsonText catalog).toUTF8) ::
      (Utf8.bytes "joins.json", .file (toJsonText config).toUTF8) :: more)

/-- The options that save the configuration of a file. -/
def shopOptions : InspectOptions where
  connection := "local"
  config := some "joins.json"
  save := some "sales"

/-- The command line that saves the configuration of a file. -/
def shopSave : List String :=
  ["inspect", "-c", "local", "--config", "joins.json", "--save", "sales"]

/-- The same command line without the file. -/
def shopAgain : List String := ["inspect", "-c", "local", "--save", "sales"]

/-- A name of 248 bytes, which leaves room for that of a log, but not of a journal. -/
def longName : String := String.ofList (List.replicate 62 (Char.ofNat 0x1d54a))

/-- Whether a desk forgets what it was told to save: under the same settings, which ask for what was
saved to be restored, the first run ends well and the second does not. -/
def Forgets (desk : Workspace) : Prop :=
  let first := runOn desk shopSave
  let settings := ((loadSettings none).run.run desk).1
  settings.toOption.any (·.wizard.restoreSaved) ∧
    ((loadSettings none).run.run first.2).1 = settings ∧
    first.1.code = 0 ∧ (runOn first.2 shopAgain).1.code = 1

/-- **Not every store brings back what was saved,** or can be used a second time: not one that is
kept in memory, nor one whose path leads through its own file, nor one that takes its rights from
its journal, nor one that was left with a log and has a name without room for that of a journal. -/
theorem not_inspect_again :
    parse shopSave = .ok ⟨none, .inspect shopOptions⟩ ∧
    parse shopAgain = .ok ⟨none, .inspect { shopOptions with config := none }⟩ ∧
    Forgets (shopDesk ":memory:") ∧
    Forgets (shopDesk "file:sales.db/x/../../sales.db") ∧
    Forgets (shopDesk "file:sales.db?modeof=sales.db-journal"
      [(Utf8.bytes "sales.db-journal", .file .empty)]) ∧
    Forgets (shopDesk longName [(Utf8.bytes longName, .store {} false),
      (Utf8.bytes (longName ++ FileTree.logSuffix), .file FileTree.logBytes)]) := by
  unfold Forgets
  decide +kernel

/-- **Saving and restoring reach a fixed point.**  A run that saves under a name and ends with code
0 is followed, at any later time, by one of the same command without a configuration file, on the
files that the first run left.  If the store is kept in a file that is not in its own way, and
settings and catalog file are read as before, then the second run reports the same, and the stores
that the two runs leave have the same rows, but for the time in the row of that name. -/
theorem inspect_again {args again : List String} {file? : Option String} {options : InspectOptions}
    {settings : Settings} {c : Connection} {path name : String} {address : StoreAddress}
    {file : List UInt8} {place : List FileName} {w w' : Workspace} {report : Report} {later : Int64}
    (hargs : parse args = .ok ⟨file?, .inspect options⟩)
    (hagain : parse again = .ok ⟨file?, .inspect { options with config := none }⟩)
    (hname : options.save = some name)
    (hsettings : ((loadSettings file?).run.run w).1 = .ok settings)
    (hrestore : settings.wizard.restoreSaved = true)
    (hconnection : ((settings.connection (m := StateM Workspace) options.connection).run.run w).1 =
      .ok c)
    (hpath : ((storePath (m := StateM Workspace) settings).run.run w).1 = .ok path)
    (hkept : FileTree.KeptApart w.workDir path address file place)
    (hrun : runOn w args = (report, w')) (hcode : report.code = 0)
    (hsame : ((loadSettings file?).run.run { w' with clock := later }).1 = .ok settings)
    (hreads : ((CatalogFile.document (m := StateM Workspace) c).run.run
        (whileOpen { w' with clock := later } path)).1 =
      ((CatalogFile.document (m := StateM Workspace) c).run.run (whileOpen w path)).1) :
    ∃ w'', runOn { w' with clock := later } again = (report, w'') ∧
      ∃ before after row, w'.files.storeAt place = .ok before ∧
        w''.files.storeAt place = .ok after ∧
        before.rows.find? name = some row ∧
        after.rows.find? name = some { row with updatedAt := later } ∧
        ∀ other, other ≠ name → after.rows.find? other = before.rows.find? other := by
  obtain ⟨s, v, saved, d, u, v', hsaving, rfl, rfl⟩ :=
    (runOn_iff_saving hargs hname hsettings hconnection hpath hcode).1 hrun
  obtain ⟨files, hclosed, hstore, hresume⟩ := hsaving.again hkept hname hrestore
  rw [hclosed] at hsame hreads ⊢
  have hdocument : ((CatalogFile.document (m := StateM Workspace) c).run.run
      (whileOpen { w with files, clock := later } path)).1 = .ok d := by
    rw [hreads, whileOpen, hsaving.opened]
    exact hsaving.reads
  obtain ⟨x', hsaving'⟩ := hresume { w with files, clock := later } rfl rfl hdocument
  obtain ⟨files', hclosed', hstore', -⟩ := hsaving'.again hkept hname hrestore
  have hconnection' := Settings.readsEnvironment_connection settings options.connection w
    { w with files, clock := later } rfl
  have hpath' := readsEnvironment_storePath settings w { w with files, clock := later } rfl
  refine ⟨_, (runOn_iff_saving hagain hname hsame (by rw [hconnection']; exact hconnection)
    (by rw [hpath']; exact hpath) hcode).2 ⟨_, _, _, d, u, x', hsaving', rfl, rfl⟩, ?_⟩
  rw [hclosed']
  refine ⟨_, _, .ofRecord (.ofSnapshot (u.snapshot name) w.clock), hstore, hstore', ?_, ?_, ?_⟩
  · exact Store.find?_rows_save.trans (if_pos rfl)
  · exact Store.find?_rows_save.trans (if_pos rfl)
  · exact fun other hother => Store.find?_rows_save.trans (if_neg hother)

/-- The settings of the shop's desk. -/
def shopSettings : Settings where
  connections := .ofList [("local", { driver := "json", connectionString := "shop.json" })]
  wizard := { restoreSaved := true }
  store := { path := some "$STORE" }

/-- The connection of the shop's desk. -/
def shopConnection : Connection := ⟨"local", "json", "shop.json", none⟩

/-- The shop's desk saves a configuration to a file and restores it from there. -/
theorem inspect_again_shop :
    let first := runOn (shopDesk "sales.db") shopSave
    first.1.code = 0 ∧
      ∃ w'', runOn { first.2 with clock := 1 } shopAgain = (first.1, w'') ∧
        ∃ before after row,
          first.2.files.storeAt [Utf8.bytes "sales.db"] = .ok before ∧
          w''.files.storeAt [Utf8.bytes "sales.db"] = .ok after ∧
          before.rows.find? "sales" = some row ∧
          after.rows.find? "sales" = some { row with updatedAt := 1 } ∧
          ∀ other, other ≠ "sales" → after.rows.find? other = before.rows.find? other := by
  intro first
  have hcode : first.1.code = 0 := by decide +kernel
  have hargs : parse shopSave = .ok ⟨none, .inspect shopOptions⟩ := by decide +kernel
  have hagain : parse shopAgain = .ok ⟨none, .inspect { shopOptions with config := none }⟩ := by
    decide +kernel
  have hsettings : ((loadSettings none).run.run (shopDesk "sales.db")).1 = .ok shopSettings := by
    decide +kernel
  have hconnection : ((shopSettings.connection (m := StateM Workspace) "local").run.run
      (shopDesk "sales.db")).1 = .ok shopConnection := by
    decide +kernel
  have hpath : ((storePath (m := StateM Workspace) shopSettings).run.run
      (shopDesk "sales.db")).1 = .ok "sales.db" := by
    decide +kernel
  have haddress : StoreAddress.ofText "sales.db" =
      .ok { path? := some (Utf8.bytes "sales.db") } := by
    decide +kernel
  have hkept : FileTree.KeptApart [] "sales.db" { path? := some (Utf8.bytes "sales.db") }
      (Utf8.bytes "sales.db") [Utf8.bytes "sales.db"] :=
    ⟨⟨haddress, rfl, by decide +kernel, List.cons_ne_nil _ _⟩, by decide +kernel, nofun,
      by decide +kernel⟩
  have hsame : ((loadSettings none).run.run { first.2 with clock := 1 }).1 = .ok shopSettings := by
    decide +kernel
  have hreads : ((CatalogFile.document (m := StateM Workspace) shopConnection).run.run
        (whileOpen { first.2 with clock := 1 } "sales.db")).1 =
      ((CatalogFile.document (m := StateM Workspace) shopConnection).run.run
        (whileOpen (shopDesk "sales.db") "sales.db")).1 := by
    decide +kernel
  exact ⟨hcode, inspect_again hargs hagain rfl hsettings rfl hconnection hpath hkept
    (Prod.eta first).symm hcode hsame hreads⟩

end Cli
end JoinWizard
