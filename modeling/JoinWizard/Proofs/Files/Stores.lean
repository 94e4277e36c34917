/-
# A store that was written can be opened again

What is written into an open store stands in its file, and when it is closed nothing is left beside
it that was not there before, and no log with something in it (`Settled`).  So a store that was
opened and written once can be opened and written whenever nothing else was done to the tree
(`Settled.opens`), and what is found is what was written last (`Workspace.openStore_again`).

It takes a store whose own files are not in its way (`KeptApart`):

| the store cannot be opened or written again, if | because |
| --- | --- |
| its path leads through its file, as `x/y/../../x` does | once it is there, nothing is below it |
| it takes its rights from a file beside it | which may be gone |
| its name leaves no room for that of a journal | and the log that it was written through is gone |
-/

import JoinWizard.Proofs.Files.Opening
import JoinWizard.Proofs.Store

namespace JoinWizard
namespace FileTree

variable {t t' base : FileTree} {place : List FileName} {s : Store} {workDir : List FileName}
  {name : String} {address : StoreAddress} {path : List UInt8}

/-! ## Writing and closing -/

/-- **A store is written through its log, if it has one, or else through a journal.** -/
theorem writeStore_eq_ok (hkept : KeptAt workDir name address path place) :
    t.writeStore workDir name s = .ok t' ↔
      address.isWritable ∧
        (t.hasLog place ∧ t.logIndex address place ≠ .fixed ∧
            t' = (t.put (.file logBytes) (beside place logSuffix)).put
              (.store s (t.isLogged place)) place ∨
          ¬t.hasLog place ∧ t.admitsJournal place ∧
            t' = (t.erase (beside place journalSuffix)).put
              (.store s (t.isLogged place)) place) := by
  rw [writeStore, hkept.named]
  dsimp only
  rw [mayWrite, hkept.keeps]
  dsimp only [Option.any_some]
  simp only [hkept.leads]
  cases address.isWritable with
  | false => simp
  | true =>
    by_cases hlog : t.hasLog place
    · by_cases hfixed : t.logIndex address place = .fixed
      · simp [hlog, hfixed]
      · simpa [hlog, hfixed] using eq_comm
    · by_cases hjournal : t.admitsJournal place
      · simpa [hlog, hjournal] using eq_comm
      · simp [hlog, hjournal]

/-- A store that is put in its place is still in use, whatever was done to the files beside it, if
of those that were not there only a log is there now. -/
theorem Using.put (h : Using address place base t) {u : FileTree}
    (hu : ChangesOnly (filesBeside place) t u) (hhas : u.hasLog place = t.hasLog place)
    (hmissing : ∀ p, t.at? p = none →
      u.at? p = none ∨ t.hasLog place ∧ p = beside place logSuffix)
    (ht' : t' = u.put (.store s (t.isLogged place)) place) :
    Using address place base t' ∧ t'.at? place = some (.store s (t.isLogged place)) ∧
      t'.hasLog place = t.hasLog place := by
  have hfile : ¬t.isDirectory place := by
    rw [h.changes.isDirectory]
    exact h.file
  have hplace : u.at? place = t.at? place := hu.at?_eq not_mem_filesBeside hfile
  have hstands : (u.at? place).isSome := hplace ▸ h.stands
  have hchanges : ChangesOnly [place] u t' := by
    rw [ht']
    exact changesOnly_put (.inl hstands) (by rwa [hu.isDirectory]) (isLeaf_store _ _)
  have hat : t'.at? place = some (.store s (t.isLogged place)) := by
    rw [ht', at?_put (.inl hstands)]
  have hlogged : t'.isLogged place = t.isLogged place := by rw [isLogged, hat]
  have hhas' : t'.hasLog place = t.hasLog place := by
    rw [hasLog_congr (hchanges.alike _ (by simpa using log_ne)), hhas]
    rw [hlogged, isLogged, isLogged, hplace]
  refine ⟨⟨h.changes.trans ((hu.mono ?_).trans (hchanges.mono ?_)), h.file, ?_, ?_, ?_, ?_⟩, hat,
    hhas'⟩
  · exact fun p hp => List.mem_cons_of_mem _ hp
  · simp
  · rw [hat]
    rfl
  · rw [hlogged, hhas']
    exact h.logged
  · rw [hhas']
    exact h.admits
  · intro p hp hnone
    rw [hhas']
    rcases h.missing p hp hnone with hnone | hlog
    · rcases hmissing p hnone with hnone | ⟨hlog, hp'⟩
      · exact .inl ((hchanges.alike p (by simpa using hp)).eq_none hnone)
      · exact .inr ⟨hlog, .inl hp'⟩
    · exact .inr hlog

/-- **A store that was written is still in use**, and could be written because its address admits
it, no directory is in the way of a journal and, if it has a log, the log's index does not stay as
it is. -/
theorem Using.write (h : Using address place base t)
    (hkept : KeptAt workDir name address path place)
    (hwrite : t.writeStore workDir name s = .ok t') :
    Using address place base t' ∧ (∃ isLogged, t'.at? place = some (.store s isLogged)) ∧
      address.isWritable ∧ ¬base.isDirectory (beside place journalSuffix) ∧
      (t'.hasLog place → base.logIndex address place ≠ .fixed) := by
  have hfile : ¬t.isDirectory place := by
    rw [h.changes.isDirectory]
    exact h.file
  obtain ⟨hwritable, ⟨hlog, hfixed, ht'⟩ | ⟨hnone, hjournal, ht'⟩⟩ :=
    (writeStore_eq_ok hkept).1 hwrite
  · obtain ⟨-, hlogFile, hjournal⟩ := h.admits hlog
    rw [← h.changes.isDirectory] at hlogFile
    have hadmits : t.Admits (beside place logSuffix) := admits_beside hkept.below h.stands
    have hchanges := changesOnly_put hadmits hlogFile (isLeaf_file logBytes)
    obtain ⟨husing, hat, -⟩ := h.put (hchanges.mono (by simp [filesBeside])) (by
      rw [hlog, hasLog, isFilled, at?_put hadmits]
      rfl) (fun p hp => by
        by_cases hp' : p = beside place logSuffix
        · exact .inr ⟨hlog, hp'⟩
        · exact .inl ((hchanges.alike p (by simpa using hp')).eq_none hp)) ht'
    refine ⟨husing, ⟨_, hat⟩, hwritable, hjournal, fun _ => ?_⟩
    rwa [← logIndex_congr h.changes]
  · have hjournalFile : ¬t.isDirectory (beside place journalSuffix) := by
      rw [admitsJournal, Bool.and_eq_true, Bool.not_eq_true'] at hjournal
      rw [hjournal.2]
      exact Bool.false_ne_true
    obtain ⟨hchanges, hmissing⟩ := changesOnly_of_cleared (.inr ⟨hjournalFile, rfl⟩)
    obtain ⟨husing, hat, hhas⟩ := h.put (hchanges.mono (by simp [filesBeside])) (by
      rw [hasLog_congr (hchanges.alike _ (by simpa using log_ne_journal))]
      rw [isLogged, isLogged, hchanges.at?_eq (by simpa using journal_ne.symm) hfile])
      (fun p hp => .inl (hmissing p hp)) ht'
    refine ⟨husing, ⟨_, hat⟩, hwritable, ?_, fun hlog => absurd (hhas ▸ hlog) hnone⟩
    rwa [← h.changes.isDirectory]

/-- What is left of the use of a store, in a tree in which it was opened, when it was written and
closed: the store, and beside it nothing that was not there before, and no log with something in
it. -/
structure Settled (address : StoreAddress) (place : List FileName) (base t : FileTree) (s : Store) :
    Prop where
  changes : ChangesOnly (place :: filesBeside place) base t
  stands : ∃ isLogged, t.at? place = some (.store s isLogged)
  missing : ∀ p, p ≠ place → base.at? p = none → t.at? p = none
  unlogged : ¬t.isFilled (beside place logSuffix)
  logged : t.isLogged place → AdmitsLogs address ∧ ¬base.isDirectory (beside place logSuffix) ∧
    base.logIndex address place ≠ .fixed
  journal : ¬base.isDirectory (beside place journalSuffix)
  writable : address.isWritable

/-- **A store that was written is settled when it is closed.** -/
theorem Using.close (h : Using address place base t)
    (hstands : ∃ isLogged, t.at? place = some (.store s isLogged)) (hwritable : address.isWritable)
    (hjournal : ¬base.isDirectory (beside place journalSuffix))
    (hindex : t.hasLog place → base.logIndex address place ≠ .fixed) :
    Settled address place base (t.closeLog address place) s := by
  have hfile : ¬t.isDirectory place := by
    rw [h.changes.isDirectory]
    exact h.file
  obtain ⟨isLogged, hat⟩ := hstands
  have hlogged : t.isLogged place → AdmitsLogs address ∧
      ¬base.isDirectory (beside place logSuffix) ∧ base.logIndex address place ≠ .fixed := by
    intro hlogged
    obtain ⟨hadmits, hlog, -⟩ := h.admits (h.logged hlogged)
    exact ⟨hadmits, hlog, hindex (h.logged hlogged)⟩
  by_cases hhas : t.hasLog place
  · obtain ⟨-, hlog, -⟩ := h.admits hhas
    rw [← h.changes.isDirectory] at hlog
    have herase := changesOnly_erase beside_ne_nil hlog
    -- What is true once the log is gone, whether or not its index goes too.
    have hgone {u : FileTree} (hu : ChangesOnly (filesBeside place) t u)
        (hmissing : ∀ p, t.at? p = none → u.at? p = none)
        (hlogGone : u.at? (beside place logSuffix) = none)
        (hindexGone : base.logIndex address place = .written →
          u.at? (beside place indexSuffix) = none) : Settled address place base u s := by
      have hplace : u.at? place = t.at? place := hu.at?_eq not_mem_filesBeside hfile
      refine ⟨h.changes.trans (hu.mono fun p hp => List.mem_cons_of_mem _ hp), ⟨isLogged, ?_⟩,
        fun p hp hnone => ?_, ?_, ?_, hjournal, hwritable⟩
      · rw [hplace, hat]
      · rcases h.missing p hp hnone with hnone | ⟨-, rfl | ⟨rfl, hwritten⟩⟩
        · exact hmissing p hnone
        · exact hlogGone
        · exact hindexGone hwritten
      · rw [isFilled, hlogGone]
        exact Bool.false_ne_true
      · rw [FileTree.isLogged, hplace, ← FileTree.isLogged]
        exact hlogged
    rw [closeLog, if_neg (by simp [hwritable, hhas])]
    cases hkept : t.logIndex address place with
    | fixed => exact absurd (logIndex_congr h.changes ▸ hkept) (hindex hhas)
    | unkept =>
      refine hgone (herase.mono (by simp [filesBeside]))
        (fun _ => at?_erase_of_none hlog beside_ne_nil) (at?_erase beside_ne_nil)
        fun hwritten => ?_
      rw [logIndex_congr h.changes, hwritten] at hkept
      cases hkept
    | written =>
      have hindexFile :
          ¬(t.erase (beside place logSuffix)).isDirectory (beside place indexSuffix) := by
        rw [herase.isDirectory]
        exact not_isDirectory_of_written hkept
      have herase' := changesOnly_erase beside_ne_nil hindexFile
      refine hgone
        ((herase.mono (by simp [filesBeside])).trans (herase'.mono (by simp [filesBeside])))
        (fun p hp => at?_erase_of_none hindexFile beside_ne_nil
          (at?_erase_of_none hlog beside_ne_nil hp)) ?_ fun _ => at?_erase beside_ne_nil
      exact at?_erase_of_none hindexFile beside_ne_nil (at?_erase beside_ne_nil)
  · rw [closeLog, if_pos (by simp [hhas])]
    refine ⟨h.changes, ⟨isLogged, hat⟩, fun p hp hnone => ?_, ?_, hlogged, hjournal, hwritable⟩
    · exact (h.missing p hp hnone).resolve_right fun hlog => hhas hlog.1
    · intro hfilled
      exact hhas (by rw [hasLog, hfilled, Bool.true_or])

/-! ## Opening again -/

/-- Whether steps from a place lead on from a place of its own, down to something below it. -/
def leadsThrough (own place : List FileName) : List FileName → Bool
  | [] => false
  | step :: rest =>
    if Path.isStill step then leadsThrough own place rest
    else if Path.isUp step then leadsThrough own place.dropLast rest
    else place = own || leadsThrough own (place ++ [step]) rest

/-- Where the store of a name is kept, if its own files are not in the way of it: its path does not
lead through its file, its rights are not those of a file beside it, and its name leaves room for
that of a journal. -/
structure KeptApart (workDir : List FileName) (name : String) (address : StoreAddress)
    (path : List UInt8) (place : List FileName) : Prop extends
    KeptAt workDir name address path place where
  apart : ¬leadsThrough place (startOf workDir path) (Path.steps path)
  rights : ∀ rights, address.rightsOf? = some rights →
    storePlace workDir rights ∉ filesBeside place
  room : (nameBeside place journalSuffix).length < nameLimit

/-- Steps that do not lead through a place are not barred by what comes to stand there. -/
theorem admitsStore_again {steps start own : List FileName}
    (hdirectories : ∀ p, t'.isDirectory p = t.isDirectory p)
    (hmissing : ∀ p, p ≠ own → t.at? p = none → t'.at? p = none)
    (hapart : ¬leadsThrough own start steps) (h : t.admitsStore start steps) :
    t'.admitsStore start steps := by
  induction steps generalizing start with
  | nil => exact h
  | cons step rest ih =>
    rw [admitsStore] at h ⊢
    rw [leadsThrough] at hapart
    split_ifs at h hapart ⊢
    · exact ih hapart h
    · exact ih hapart h
    · simp only [Bool.or_eq_true, decide_eq_true_eq, not_or] at hapart
      simp only [Bool.and_eq_true, Bool.or_eq_true, Option.isNone_iff_eq_none] at h ⊢
      rw [hdirectories]
      exact ⟨⟨⟨h.1.1.1.imp_right (hmissing start hapart.1), h.1.1.2⟩, h.1.2⟩, ih hapart.2 h.2⟩

/-- What was found somewhere is found there again. -/
theorem look_again {rights : List UInt8} (h : Settled address place base t s)
    (hrights : storePlace workDir rights ∉ filesBeside place)
    (hlook : (base.look workDir rights).isOk) : (t.look workDir rights).isOk := by
  obtain ⟨found, hlocate, hsome⟩ := look_isOk.1 hlook
  have hfound : found = storePlace workDir rights := eq_follow_of_walk (locate_eq_ok.1 hlocate).2
  refine look_isOk.2 ⟨found,
    locate_of_directories (fun p hp => (h.changes.isDirectory p).trans hp) hlocate, ?_⟩
  by_cases hplace : found = place
  · obtain ⟨isLogged, hat⟩ := h.stands
    rw [hplace, hat]
    rfl
  · rwa [(h.changes.alike found ?_).isSome_eq]
    rw [List.mem_cons, not_or]
    exact ⟨hplace, hfound ▸ hrights⟩

/-- A store that is settled is found, and under no lock, as before. -/
theorem Settled.finds {t₁ : FileTree} (h : Settled address place base t s)
    (hkept : KeptApart workDir name address path place)
    (hfind : Gives (findStore workDir name address path) base () t₁)
    (hlock : Gives (checkLock address place) t₁ () t₁) :
    Gives (findStore workDir name address path) t () t ∧
      Gives (checkLock address place) t () t := by
  obtain ⟨hway, hlook, -⟩ := gives_findStore.1 hfind
  obtain ⟨hchanges, -, -⟩ := found_of_gives hfind
  rw [hkept.leads] at hchanges
  obtain ⟨isLogged, hat⟩ := h.stands
  constructor
  · refine gives_findStore.2 ⟨admitsStore_again h.changes.isDirectory h.missing hkept.apart hway,
      fun rights heq => look_again h (hkept.rights rights heq) (hlook rights heq),
      .inl ⟨?_, ?_, rfl⟩⟩
    · rw [hkept.leads, hat]
      rfl
    · rw [hkept.leads]
      exact not_isDirectory_of_isLeaf hat (isLeaf_store s isLogged)
  · refine gives_checkLock.2 ⟨rfl, fun hlocks => ?_⟩
    obtain ⟨hlength, hfree⟩ := (gives_checkLock.1 hlock).2 hlocks
    refine ⟨hlength, h.missing _ (beside_ne (by decide)) ?_⟩
    have hsome := (hchanges.alike (beside place lockSuffix)
      (by simpa using beside_ne (by decide))).isSome_eq
    rw [hfree] at hsome
    simpa using hsome.symm

/-- A store that is settled stays so when its journal is taken back. -/
theorem Settled.clear (h : Settled address place base t s)
    (hclear : Gives (clearJournal address place) t () t') : Settled address place base t' s := by
  obtain ⟨hchanges, hmissing⟩ := changesOnly_of_cleared (cleared_of_gives hclear).1
  obtain ⟨isLogged, hat⟩ := h.stands
  have hplace : t'.at? place = t.at? place :=
    hchanges.at?_eq (by simpa using journal_ne.symm)
      (not_isDirectory_of_isLeaf hat (isLeaf_store s isLogged))
  refine ⟨h.changes.trans (hchanges.mono (by simp [filesBeside])), ⟨isLogged, hplace.trans hat⟩,
    fun p hp hnone => hmissing p (h.missing p hp hnone), ?_, ?_, h.journal, h.writable⟩
  · rw [isFilled_congr (hchanges.alike _ (by simpa using log_ne_journal))]
    exact h.unlogged
  · rw [FileTree.isLogged, hplace, ← FileTree.isLogged]
    exact h.logged

/-- **The log of a store that is settled can be opened,** if it has to have one, and then the store
can be written. -/
theorem Settled.logs (h : Settled address place base t s)
    (hkept : KeptApart workDir name address path place) :
    ∃ t', Gives (openLog address place) t () t' ∧ t'.storeAt place = .ok s ∧
      ∀ s', ∃ t'', t'.writeStore workDir name s' = .ok t'' := by
  obtain ⟨isLogged, hat⟩ := h.stands
  have hstands : (t.at? place).isSome := by rw [hat]; rfl
  have hfile : ¬t.isDirectory place := not_isDirectory_of_isLeaf hat (isLeaf_store s isLogged)
  by_cases hlogged : t.isLogged place
  · obtain ⟨hadmits, hlogFile, hindex⟩ := h.logged hlogged
    rw [← h.changes.isDirectory] at hlogFile
    have hwithLog := changesOnly_withLog hkept.below hstands hlogFile
    obtain ⟨t', hopen⟩ : ∃ t', Gives (openIndex address place) (t.withLog place) () t' := by
      rw [← logIndex_congr h.changes, ← logIndex_congr hwithLog] at hindex
      cases hindex' : (t.withLog place).logIndex address place with
      | unkept => exact ⟨_, gives_openIndex.2 (.inl ⟨hindex', rfl⟩)⟩
      | written => exact ⟨_, gives_openIndex.2 (.inr (.inl ⟨hindex', rfl⟩))⟩
      | fixed => exact absurd hindex' hindex
    have hfull : ¬t.isBlank place := by rw [isBlank, hat]; exact Bool.false_ne_true
    have hlog : Gives (openLog address place) t () t' :=
      gives_openLog.2 (.inr ⟨.inr hlogged, hlogFile, .inr ⟨hfull, hadmits, hopen⟩⟩)
    obtain ⟨hchanges, hhas, -⟩ := logged_of_gives hkept.below hstands hfile hlog
    have hplace : t'.at? place = t.at? place :=
      hchanges.at?_eq (by simp [log_ne.symm, index_ne.symm]) hfile
    refine ⟨t', hlog, by rw [storeAt, hplace, hat], fun s' =>
      ⟨_, (writeStore_eq_ok hkept.toKeptAt).2 ⟨h.writable, .inl ⟨hhas ?_, ?_, rfl⟩⟩⟩⟩
    · rwa [FileTree.isLogged, hplace, ← FileTree.isLogged]
    · rwa [logIndex_congr hchanges, logIndex_congr h.changes]
  · refine ⟨t, gives_openLog.2 (.inl ⟨h.unlogged, hlogged, rfl⟩), by rw [storeAt, hat], fun s' =>
      ⟨_, (writeStore_eq_ok hkept.toKeptAt).2 ⟨h.writable, .inr ⟨?_, ?_, rfl⟩⟩⟩⟩
    · simp [hasLog, h.unlogged, hlogged]
    · rw [admitsJournal, h.changes.isDirectory]
      simp [hkept.room, h.journal]

/-- **A store that is settled can be opened again and written**, as it could be opened before. -/
theorem Settled.opens {s₀ : Store} {t₀ : FileTree} (h : Settled address place base t s)
    (hkept : KeptApart workDir name address path place)
    (hfirst : Gives (openStoreAt workDir name address) base s₀ t₀) :
    ∃ t', Gives (openStoreAt workDir name address) t s t' ∧
      ∀ s', ∃ t'', t'.writeStore workDir name s' = .ok t'' := by
  obtain ⟨haccess, himmutable⟩ : address.access ≠ .readOnly ∧ address.isImmutable = false := by
    simpa [StoreAddress.isWritable] using h.writable
  obtain ⟨t₁, _, hfind, hlock, -⟩ := (gives_openStoreAt hkept.keeps himmutable).1 hfirst
  rw [hkept.leads] at hlock
  obtain ⟨hfind, hlock⟩ := h.finds hkept hfind hlock
  have hjournal : ¬t.isDirectory (beside place journalSuffix) := by
    rw [h.changes.isDirectory]
    exact h.journal
  obtain ⟨t₂, hclear⟩ : ∃ t₂, Gives (clearJournal address place) t () t₂ :=
    exists_gives_clearJournal haccess hjournal
  obtain ⟨t', hlog, hstore, hwrites⟩ := (h.clear hclear).logs hkept
  refine ⟨t', (gives_openStoreAt hkept.keeps himmutable).2 ⟨t, t₂, hfind, ?_⟩, hwrites⟩
  rw [hkept.leads]
  exact ⟨hlock, hclear, hlog, hstore⟩

/-! ## Stores by name -/

/-- A store is opened once the directories above it are had. -/
theorem readStore_eq_ok (hkept : KeptAt workDir name address path place) :
    t.readStore workDir name = (.ok s, t') ↔
      ∃ base, t.ensureDirectories workDir (Path.above name) = (.ok (), base) ∧
        Gives (openStoreAt workDir name address) base s t' := by
  rw [readStore]
  cases hmade : t.ensureDirectories workDir (Path.above name) with
  | mk result base =>
    cases result with
    | error fault => exact iff_of_false nofun nofun
    | ok _ =>
      dsimp only
      rw [hkept.named]
      constructor
      · exact fun h => ⟨base, rfl, h⟩
      · rintro ⟨_, ⟨⟩, h⟩
        exact h

/-- A store is closed by closing its log. -/
theorem closeStore_eq (hkept : KeptAt workDir name address path place) :
    t.closeStore workDir name = t.closeLog address place := by
  rw [closeStore, hkept.named]
  dsimp only
  rw [hkept.keeps]
  dsimp only
  rw [hkept.leads]

/-- **What was settled is found again** under the name of the store, and no directory has to be made
for it. -/
theorem Settled.reads {s₀ : Store} {t₀ t₁ : FileTree} (h : Settled address place base t s)
    (hkept : KeptApart workDir name address path place)
    (hmade : t₀.ensureDirectories workDir (Path.above name) = (.ok (), base))
    (hfirst : Gives (openStoreAt workDir name address) base s₀ t₁) :
    ∃ t', t.readStore workDir name = (.ok s, t') ∧
      ∀ s', ∃ t'', t'.writeStore workDir name s' = .ok t'' := by
  obtain ⟨t', hopen, hwrites⟩ := h.opens hkept hfirst
  refine ⟨t', (readStore_eq_ok hkept.toKeptAt).2 ⟨t, ?_, hopen⟩, hwrites⟩
  exact ensureDirectories_again (fun p hp => (h.changes.isDirectory p).trans hp) hmade

end FileTree

/-! ## Stores of a workspace -/

namespace Workspace

open FileTree

variable {w w' : Workspace} {name : String} {address : StoreAddress} {path : List UInt8}
  {place : List FileName} {s : Store}

/-- A store that was written is in the tree that is left. -/
theorem run_writeStore :
    (Machine.writeStore name s : StateM Workspace _).run w = (.ok (), w') ↔
      ∃ files, w.files.writeStore w.workDir name s = .ok files ∧ w' = { w with files } := by
  cases hwrite : w.files.writeStore w.workDir name s with
  | error e =>
    have hrun : (Machine.writeStore name s : StateM Workspace _).run w = (.error e, w) := by
      simp [Machine.writeStore, StateT.run, hwrite]
    rw [hrun]
    exact iff_of_false (fun h => by cases h) (by rintro ⟨_, ⟨⟩, _⟩)
  | ok files =>
    have hrun :
        (Machine.writeStore name s : StateM Workspace _).run w = (.ok (), { w with files }) := by
      simp [Machine.writeStore, StateT.run, hwrite]
    rw [hrun]
    constructor
    · intro h
      exact ⟨files, rfl, (Prod.mk.inj h).2.symm⟩
    · rintro ⟨_, ⟨⟩, rfl⟩
      rfl

/-- A store that was found is in the tree that it leaves. -/
theorem run_readStore : (Machine.readStore name : StateM Workspace _).run w =
    ((w.files.readStore w.workDir name).1,
      { w with files := (w.files.readStore w.workDir name).2 }) := rfl

/-- A store that was opened was found and readied, and written if that changed it. -/
theorem opened_of_run (h : (Machine.openStore name : StateM Workspace _).run w = (.ok s, w')) :
    ∃ found files, w.files.readStore w.workDir name = (.ok found, files) ∧ s = found.prepare ∧
      (w' = { w with files } ∨ ∃ written, files.writeStore w.workDir name s = .ok written ∧
        w' = { w with files := written }) := by
  rcases hread : w.files.readStore w.workDir name with ⟨result, files⟩
  unfold Machine.openStore at h
  rw [StateT.run_bind, run_readStore, hread] at h
  cases result with
  | error e => cases h
  | ok found =>
    refine ⟨found, files, rfl, ?_⟩
    change (if found.prepare = found then _ else _ : StateM Workspace _).run _ = _ at h
    split at h
    · obtain ⟨h₁, h₂⟩ := Prod.mk.inj h
      exact ⟨(Except.ok.inj h₁).symm, .inl h₂.symm⟩
    · rw [StateT.run_bind] at h
      dsimp only at h
      rcases hwrite : (Machine.writeStore name found.prepare : StateM Workspace _).run
        { w with files } with ⟨result, v⟩
      rw [hwrite] at h
      cases result with
      | error e => cases h
      | ok _ =>
        obtain ⟨written, hwritten, rfl⟩ := run_writeStore.1 hwrite
        obtain ⟨h₁, h₂⟩ := Prod.mk.inj h
        obtain rfl := Except.ok.inj h₁
        exact ⟨rfl, .inr ⟨written, hwritten, h₂.symm⟩⟩

/-- A store that is ready when it is found is opened as it is. -/
theorem run_openStore_of_ready {files : FileTree}
    (hread : w.files.readStore w.workDir name = (.ok s, files)) (hready : s.Ready) :
    (Machine.openStore name : StateM Workspace _).run w = (.ok s, { w with files }) := by
  unfold Machine.openStore
  rw [StateT.run_bind, run_readStore, hread]
  show (if s.prepare = s then _ else _ : StateM Workspace _).run _ = _
  rw [if_pos hready.prepare_eq, hready.prepare_eq]
  rfl

/-- **A store that was opened, written and closed is there, and can be opened and written again** by
whoever has the same files.  Nothing but files was changed. -/
theorem openStore_again {s₀ : Store} {v v' : Workspace}
    (hkept : KeptApart w.workDir name address path place)
    (hopen : (Machine.openStore name : StateM Workspace _).run w = (.ok s₀, v))
    (hwrite : (Machine.writeStore name s : StateM Workspace _).run v = (.ok (), v')) :
    s₀.Ready ∧ v = { w with files := v.files } ∧
      ∃ files, ((Machine.closeStore name : StateM Workspace _).run v').2 = { w with files } ∧
        files.storeAt place = .ok s ∧
        (s.Ready → ∀ u : Workspace, u.workDir = w.workDir → u.files = files →
          ∃ u', (Machine.openStore name : StateM Workspace _).run u = (.ok s, u') ∧
            u' = { u with files := u'.files } ∧
            ∀ s', ∃ u'',
              (Machine.writeStore name s' : StateM Workspace _).run u' = (.ok (), u'')) := by
  obtain ⟨found, t, hread, rfl, hv⟩ := opened_of_run hopen
  obtain ⟨base, hmade, hfirst⟩ := (readStore_eq_ok hkept.toKeptAt).1 hread
  obtain ⟨files₁, rfl, husing⟩ : ∃ files₁, v = { w with files := files₁ } ∧
      (Using address place base t → Using address place base files₁) := by
    rcases hv with rfl | ⟨files₁, hwritten, rfl⟩
    · exact ⟨t, rfl, id⟩
    · exact ⟨files₁, rfl, fun h => (h.write hkept.toKeptAt hwritten).1⟩
  obtain ⟨files₂, hwritten, rfl⟩ := run_writeStore.1 hwrite
  have himmutable : address.isImmutable = false := by
    have hwritable := ((writeStore_eq_ok hkept.toKeptAt).1 hwritten).1
    rw [StoreAddress.isWritable, Bool.and_eq_true, Bool.not_eq_true'] at hwritable
    exact hwritable.2
  obtain ⟨husing₂, hstands, hwritable, hjournal, hindex⟩ :=
    (husing (using_of_openStoreAt hkept.toKeptAt himmutable hfirst)).write hkept.toKeptAt hwritten
  have hsettled := husing₂.close hstands hwritable hjournal hindex
  have hstore : (files₂.closeLog address place).storeAt place = .ok s := by
    obtain ⟨isLogged, hat⟩ := hsettled.stands
    rw [storeAt, hat]
  rw [← closeStore_eq hkept.toKeptAt] at hsettled hstore
  refine ⟨Store.ready_prepare found, rfl, files₂.closeStore w.workDir name, rfl, hstore, ?_⟩
  intro hready u hworkDir hfiles
  obtain ⟨files, hread, hwrites⟩ := hsettled.reads hkept hmade hfirst
  rw [← hfiles, ← hworkDir] at hread
  rw [← hworkDir] at hwrites
  refine ⟨_, run_openStore_of_ready hread hready, rfl, fun s' => ?_⟩
  obtain ⟨written, hwritten⟩ := hwrites s'
  exact ⟨_, run_writeStore.2 ⟨written, hwritten, rfl⟩⟩

end Workspace
end JoinWizard
