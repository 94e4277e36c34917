/-
# What it takes to open a store

A store that is kept in a file is opened in four steps: its file is found or made, a lock looked
for, a journal taken back, and a log opened.  Each step either fails or changes at most the store's
own files, which are its file and three beside it under longer names (`gives_findStore`,
`gives_checkLock`, `cleared_of_gives`, `gives_openLog`).

| file | while the store is open |
| --- | --- |
| its own | there, as it was or new and empty |
| journal | none, or as before |
| log | there if one was, or if the store is always written through one; none for an empty store |
| index of the log | there for a log, unless none is kept |

What they leave together is a store in use (`using_of_openStoreAt`): no directory comes or goes,
every other file is the file it was, and where a log is opened nothing is in the way of a journal.
-/

import JoinWizard.Files.Stores
import JoinWizard.Proofs.Files.Tree
import JoinWizard.Proofs.Workspace

namespace JoinWizard
namespace FileTree

variable {t t' base : FileTree} {place : List FileName} {s : Store} {workDir : List FileName}
  {name suffix : String} {address : StoreAddress} {path : List UInt8}

/-! ## Files beside a store -/

/-- The places of the files that go with the store at a place. -/
def filesBeside (place : List FileName) : List (List FileName) :=
  [beside place journalSuffix, beside place logSuffix, beside place indexSuffix]

theorem beside_ne_nil : beside place suffix ≠ [] := List.append_ne_nil_of_right_ne_nil _ (by simp)

theorem dropLast_beside : (beside place suffix).dropLast = place.dropLast := List.dropLast_concat

/-- What is beside a place is somewhere else. -/
theorem beside_ne (h : Utf8.bytes suffix ≠ []) : beside place suffix ≠ place := by
  intro he
  rcases place.eq_nil_or_concat with rfl | ⟨above, last, rfl⟩
  · exact beside_ne_nil he
  · have hbeside : beside (above.concat last) suffix = above ++ [last ++ Utf8.bytes suffix] := by
      simp [beside, nameBeside]
    rw [hbeside, List.concat_eq_append, List.append_cancel_left_eq, List.singleton_inj] at he
    exact h (List.append_right_eq_self.1 he)

/-- Different suffixes make different files. -/
theorem beside_inj {suffix' : String} (h : beside place suffix = beside place suffix') :
    Utf8.bytes suffix = Utf8.bytes suffix' := by
  rw [beside, beside, List.append_cancel_left_eq, List.singleton_inj] at h
  exact List.append_cancel_left h

theorem journal_ne : beside place journalSuffix ≠ place := beside_ne (by decide)

theorem log_ne : beside place logSuffix ≠ place := beside_ne (by decide)

theorem index_ne : beside place indexSuffix ≠ place := beside_ne (by decide)

theorem log_ne_index : beside place logSuffix ≠ beside place indexSuffix :=
  fun h => absurd (beside_inj h) (by decide)

theorem log_ne_journal : beside place logSuffix ≠ beside place journalSuffix :=
  fun h => absurd (beside_inj h) (by decide)

theorem not_mem_filesBeside : place ∉ filesBeside place := by
  simp [filesBeside, journal_ne.symm, log_ne.symm, index_ne.symm]

/-- Something can be put beside what stands in a directory. -/
theorem admits_beside (hne : place ≠ []) (h : (t.at? place).isSome) :
    t.Admits (beside place suffix) := by
  refine .inr ?_
  rw [dropLast_beside]
  refine isDirectory_of_prefix h (List.dropLast_prefix place) fun he => ?_
  have hlength := congrArg List.length he
  rw [List.length_dropLast] at hlength
  have := List.length_pos_iff.2 hne
  omega

/-- Where the store of a name is kept: in a file, at a place below the root. -/
structure KeptAt (workDir : List FileName) (name : String) (address : StoreAddress)
    (path : List UInt8) (place : List FileName) : Prop where
  named : StoreAddress.ofText name = .ok address
  keeps : address.path? = some path
  leads : storePlace workDir path = place
  below : place ≠ []

/-! ## Steps on the way to an open store

What a step does that comes to its end, and when it does.
-/

section

variable {α : Type} {u : Unit} {f : FileTree → StoreStep α} {a : α}

theorem gives_get : Gives (do f (← get)) t a t' ↔ Gives (f t) t a t' := Iff.rfl

theorem gives_set : Gives (set base : StoreStep Unit) t u t' ↔ t' = base := by
  constructor
  · rintro ⟨⟩
    rfl
  · rintro rfl
    rfl

theorem gives_skip : Gives (pure () : StoreStep Unit) t u t' ↔ t' = t := by
  rw [gives_pure, and_iff_right rfl, eq_comm]

/-- **The file of a store is found where its path leads,** or made there if it is missing. -/
theorem gives_findStore : Gives (findStore workDir name address path) t u t' ↔
    t.admitsStore (startOf workDir path) (Path.steps path) ∧
      (∀ rights, address.rightsOf? = some rights → (t.look workDir rights).isOk) ∧
      ((t.at? (storePlace workDir path)).isSome ∧
          ¬t.isDirectory (storePlace workDir path) ∧ t' = t ∨
        t.at? (storePlace workDir path) = none ∧ address.access = .create ∧
          t.isDirectory (storePlace workDir path).dropLast ∧
          t' = t.put (.file .empty) (storePlace workDir path)) := by
  unfold findStore
  rw [gives_get]
  dsimp only
  by_cases hway : t.admitsStore (startOf workDir path) (Path.steps path)
  · rw [if_neg (by simp [hway]), and_iff_right hway]
    by_cases hlook : ∀ rights, address.rightsOf? = some rights → (t.look workDir rights).isOk
    · rw [and_iff_right hlook, if_neg]
      · cases hat : t.at? (storePlace workDir path) with
        | some found =>
          cases found with
          | directory entries =>
            refine iff_of_false (not_gives_throw _) ?_
            rintro (⟨-, hfile, -⟩ | ⟨hnone, -⟩)
            · exact hfile (isDirectory_iff.2 ⟨entries, hat⟩)
            · cases hnone
          | file bytes =>
            simp [gives_skip, not_isDirectory_of_isLeaf hat (isLeaf_file bytes)]
          | store s isLogged =>
            simp [gives_skip, not_isDirectory_of_isLeaf hat (isLeaf_store s isLogged)]
        | none =>
          dsimp only
          by_cases hmake :
              address.access = .create ∧ t.isDirectory (storePlace workDir path).dropLast
          · rw [if_pos hmake, gives_set]
            simp [hmake]
          · rw [if_neg hmake]
            refine iff_of_false (not_gives_throw _) ?_
            rintro (⟨hsome, -⟩ | ⟨-, haccess, hdirectory, -⟩)
            · cases hsome
            · exact hmake ⟨haccess, hdirectory⟩
      · intro hany
        obtain ⟨rights, heq, hfails⟩ := (Option.any_eq_true _ _).1 hany
        rw [hlook rights heq] at hfails
        cases hfails
    · rw [if_pos]
      · exact iff_of_false (not_gives_throw _) fun h => hlook h.1
      · obtain ⟨rights, hfails⟩ := not_forall.1 hlook
        obtain ⟨heq, hfails⟩ := Classical.not_imp.1 hfails
        rw [heq, Option.any_some, eq_false_of_ne_true hfails]
        rfl
  · rw [if_pos (by simp [hway])]
    exact iff_of_false (not_gives_throw _) fun h => hway h.1

/-- A store under lock is not opened, where a directory is the lock. -/
theorem gives_checkLock : Gives (checkLock address place) t u t' ↔
    t' = t ∧ (address.fileSystem = .lockDirectory ∧ address.isUnlocked = false →
      (nameBeside place lockSuffix).length < nameLimit ∧
        t.at? (beside place lockSuffix) = none) := by
  unfold checkLock
  rw [gives_get]
  by_cases hlocks : address.fileSystem = .lockDirectory ∧ address.isUnlocked = false
  · rw [if_pos (by simpa using hlocks), imp_iff_right hlocks]
    by_cases hlong : (nameBeside place lockSuffix).length ≥ nameLimit
    · rw [if_pos hlong]
      exact iff_of_false (not_gives_throw _) fun h => absurd h.2.1 (Nat.not_lt.2 hlong)
    · rw [if_neg hlong, and_iff_right (Nat.not_le.1 hlong)]
      cases hat : t.at? (beside place lockSuffix) with
      | some found => exact iff_of_false (not_gives_throw _) fun h => nomatch h.2
      | none => rw [eq_self, and_true]; exact gives_skip
  · rw [if_neg (by simpa using hlocks), and_iff_left fun h => absurd h hlocks]
    exact gives_skip

/-- A directory counts for more than an empty file. -/
theorem isFilled_of_isDirectory (h : t.isDirectory place) : t.isFilled place := by
  obtain ⟨entries, he⟩ := isDirectory_iff.1 h
  rw [isFilled, he]
  rfl

/-- **A journal that was left is removed, or stays as it is.**  Beside a store that is not empty a
directory cannot stand for it, unless directories are locks. -/
theorem cleared_of_gives (h : Gives (clearJournal address place) t u t') :
    (t' = t ∨ ¬t.isDirectory (beside place journalSuffix) ∧
      t' = t.erase (beside place journalSuffix)) ∧
      (address.fileSystem ≠ .lockDirectory → ¬t.isBlank place →
        ¬t.isDirectory (beside place journalSuffix)) := by
  unfold clearJournal at h
  rw [gives_get] at h
  dsimp only at h
  by_cases hleft : (address.fileSystem = .lockDirectory && (!address.isUnlocked ||
      (t.at? (beside place lockSuffix)).isSome)) || !t.isFilled (beside place journalSuffix)
  · rw [if_pos hleft] at h
    refine ⟨.inl (gives_skip.1 h), fun hfiles _ hdirectory => ?_⟩
    simp [hfiles, isFilled_of_isDirectory hdirectory] at hleft
  rw [if_neg hleft] at h
  by_cases hblank : t.isBlank place
  · rw [if_pos hblank] at h
    refine ⟨?_, fun _ hfull => absurd hblank hfull⟩
    split at h
    · next hremove =>
      rw [Bool.and_eq_true, Bool.not_eq_true'] at hremove
      exact .inr ⟨by simp [hremove.2], gives_set.1 h⟩
    · exact .inl (gives_skip.1 h)
  rw [if_neg hblank] at h
  by_cases hdirectory : t.isDirectory (beside place journalSuffix)
  · rw [if_pos hdirectory] at h
    exact absurd h (not_gives_throw _)
  rw [if_neg hdirectory] at h
  refine ⟨?_, fun _ _ => hdirectory⟩
  split at h
  · exact .inl (gives_skip.1 h)
  · split at h
    · exact absurd h (not_gives_throw _)
    · exact .inr ⟨hdirectory, gives_set.1 h⟩

/-- A journal that is no directory does not keep a store from being opened to be written. -/
theorem exists_gives_clearJournal (haccess : address.access ≠ .readOnly)
    (h : ¬t.isDirectory (beside place journalSuffix)) :
    ∃ t', Gives (clearJournal address place) t u t' := by
  unfold clearJournal
  simp only [gives_get]
  split
  · exact ⟨_, gives_skip.2 rfl⟩
  split
  · split
    · exact ⟨_, gives_set.2 rfl⟩
    · exact ⟨_, gives_skip.2 rfl⟩
  · split
    · exact ⟨_, gives_skip.2 rfl⟩
    · exact ⟨_, gives_set.2 rfl⟩

/-- Whether there can be logs at an address. -/
def AdmitsLogs (address : StoreAddress) : Prop :=
  address.isUnlocked = false ∧ (address.fileSystem = .locked ∨ address.fileSystem = .exclusive)

/-- The index of a log is kept in no file, or written, or it stays as it is. -/
theorem gives_openIndex : Gives (openIndex address place) t u t' ↔
    t.logIndex address place = .unkept ∧ t' = t ∨
      t.logIndex address place = .written ∧
        t' = t.put (.file indexBytes) (beside place indexSuffix) ∨
      t.logIndex address place = .fixed ∧ (t.at? (beside place indexSuffix)).isSome ∧
        t.isUnmarked (beside place logSuffix) ∧ t' = t := by
  unfold openIndex
  rw [gives_get]
  dsimp only
  cases t.logIndex address place with
  | unkept => simp [gives_skip]
  | written => simp [gives_set]
  | fixed =>
    cases hat : t.at? (beside place indexSuffix) with
    | none => simp [not_gives_throw]
    | some found =>
      by_cases hmarked : t.isUnmarked (beside place logSuffix)
      · simp [hmarked, gives_skip]
      · simp [hmarked, not_gives_throw]

/-- A tree with a log beside the store at a place. -/
def withLog (t : FileTree) (place : List FileName) : FileTree :=
  if t.isFilled (beside place logSuffix) then t else t.put (.file .empty) (beside place logSuffix)

/-- **A log is opened where there is one or has to be,** and an empty store has none. -/
theorem gives_openLog : Gives (openLog address place) t u t' ↔
    ¬t.isFilled (beside place logSuffix) ∧ ¬t.isLogged place ∧ t' = t ∨
      (t.isFilled (beside place logSuffix) ∨ t.isLogged place) ∧
        ¬t.isDirectory (beside place logSuffix) ∧
        (t.isBlank place ∧ t' = t.erase (beside place logSuffix) ∨
          ¬t.isBlank place ∧ AdmitsLogs address ∧
            Gives (openIndex address place) (t.withLog place) u t') := by
  unfold openLog
  rw [gives_get]
  dsimp only
  by_cases hnone : t.isFilled (beside place logSuffix) = false ∧ t.isLogged place = false
  · simp [hnone, gives_skip]
  have hsome : t.isFilled (beside place logSuffix) ∨ t.isLogged place := by
    by_contra h
    simp_all
  rw [if_neg (by simpa using hnone), and_iff_right hsome,
    or_iff_right fun h => hnone ⟨eq_false_of_ne_true h.1, eq_false_of_ne_true h.2.1⟩]
  by_cases hblank : t.isBlank place
  · rw [if_pos hblank]
    by_cases hdirectory : t.isDirectory (beside place logSuffix)
    · simp [hdirectory, not_gives_throw]
    · simp [hdirectory, hblank, gives_set]
  rw [if_neg hblank]
  by_cases hbars : ¬t.isDirectory (beside place logSuffix) ∧ AdmitsLogs address
  · rw [if_neg (by simpa [AdmitsLogs, or_iff_not_imp_left] using hbars)]
    rw [and_iff_right hbars.1, or_iff_right fun h => hblank h.1, and_iff_right hblank,
      and_iff_right hbars.2, withLog]
    cases t.isFilled (beside place logSuffix) with
    | true => rfl
    | false =>
      have hset : Gives (set (t.put (.file .empty) (beside place logSuffix)) : StoreStep Unit) t ()
          (t.put (.file .empty) (beside place logSuffix)) := rfl
      exact hset.bind_iff
  · rw [if_pos (by simpa [AdmitsLogs, or_iff_not_imp_left] using hbars)]
    refine iff_of_false (not_gives_throw _) ?_
    rintro ⟨hfile, ⟨h, -⟩ | ⟨-, hadmits, -⟩⟩
    · exact hblank h
    · exact hbars ⟨hfile, hadmits⟩

end

/-! ## Open stores -/

/-- Whether a tree is one in which the store at a place is open, or was left open, since it was
opened in another: only its files have changed, and files that were not there are not there now, but
for its own and those of its log. -/
structure Using (address : StoreAddress) (place : List FileName) (base t : FileTree) : Prop where
  changes : ChangesOnly (place :: filesBeside place) base t
  file : ¬base.isDirectory place
  stands : (t.at? place).isSome
  /-- A store that is always written through a log has one. -/
  logged : t.isLogged place → t.hasLog place
  admits : t.hasLog place → AdmitsLogs address ∧ ¬base.isDirectory (beside place logSuffix) ∧
    ¬base.isDirectory (beside place journalSuffix)
  missing : ∀ p, p ≠ place → base.at? p = none → t.at? p = none ∨
    t.hasLog place ∧ (p = beside place logSuffix ∨
      p = beside place indexSuffix ∧ base.logIndex address place = .written)

/-- An empty file is not the file of a store that is always written through a log. -/
theorem isLogged_of_isBlank (h : t.isBlank place) : t.isLogged place = false := by
  unfold isBlank at h
  unfold isLogged
  split at h
  · next bytes hat =>
    have hsize : bytes.data.size ≤ 1 := of_decide_eq_true h
    have hshort : Image.number? bytes 16 2 = none := by
      show (do let n ← bytes.data[16]?.map _; _ : Option Nat) = none
      rw [Array.getElem?_eq_none (by omega)]
      rfl
    have hnone : Image.ofBytes? bytes = none := by
      rw [Image.ofBytes?, hshort]
      rfl
    rw [hat]
    dsimp only
    rw [hnone]
    rfl
  · cases h

/-- How an index is kept depends on whether a directory is in its place. -/
theorem logIndex_congr {places : List (List FileName)} (h : ChangesOnly places base t) :
    t.logIndex address place = base.logIndex address place := by
  rw [logIndex, logIndex, h.isDirectory]

theorem isFilled_congr {place : List FileName} (h : Alike (t.at? place) (t'.at? place)) :
    t'.isFilled place = t.isFilled place := by
  rw [isFilled, isFilled]
  rcases h with h | ⟨⟨_, h⟩, _, h'⟩
  · rw [h]
  · rw [h, h']
    rfl

theorem hasLog_congr
    (hlog : Alike (t.at? (beside place logSuffix)) (t'.at? (beside place logSuffix)))
    (hlogged : t'.isLogged place = t.isLogged place) : t'.hasLog place = t.hasLog place := by
  rw [hasLog, hasLog, isFilled_congr hlog, hlogged, hlog.isSome_eq]

/-- The last step: what stands at the store's place is read, or the log is closed again. -/
def readFound (address : StoreAddress) (place : List FileName) : StoreStep Store := do
  let t ← get
  match t.storeAt place with
  | .ok s => return s
  | .error e =>
    set (t.closeLog address place)
    throw e

theorem gives_readFound :
    Gives (readFound address place) t s t' ↔ t = t' ∧ t'.storeAt place = .ok s := by
  unfold readFound
  rw [gives_get]
  cases hstore : t.storeAt place with
  | ok found =>
    rw [gives_pure, and_comm]
    refine and_congr_right ?_
    rintro rfl
    rw [hstore, Except.ok.injEq]
  | error e =>
    refine iff_of_false ?_ ?_
    · intro h
      obtain ⟨-, -, -, h⟩ := gives_bind.1 h
      exact not_gives_throw _ h
    · rintro ⟨rfl, h⟩
      rw [hstore] at h
      cases h

/-- **What is opened is what stands at the store's place**, after all steps have come to their
end. -/
theorem gives_openStoreAt (hpath : address.path? = some path)
    (himmutable : address.isImmutable = false) :
    Gives (openStoreAt workDir name address) t s t' ↔
      ∃ t₁ t₂, Gives (findStore workDir name address path) t () t₁ ∧
        Gives (checkLock address (storePlace workDir path)) t₁ () t₁ ∧
        Gives (clearJournal address (storePlace workDir path)) t₁ () t₂ ∧
        Gives (openLog address (storePlace workDir path)) t₂ () t' ∧
        t'.storeAt (storePlace workDir path) = .ok s := by
  unfold openStoreAt
  rw [hpath, himmutable]
  dsimp only
  rw [gives_bind]
  constructor
  · rintro ⟨⟨⟩, t₁, hfind, h⟩
    obtain ⟨⟨⟩, u, hlock, h⟩ := gives_bind.1 h
    obtain ⟨⟨⟩, t₂, hclear, h⟩ := gives_bind.1 h
    obtain ⟨⟨⟩, t₃, hlog, h⟩ := gives_bind.1 h
    obtain ⟨rfl, hstore⟩ := gives_readFound.1 h
    obtain rfl := (gives_checkLock.1 hlock).1
    exact ⟨u, t₂, hfind, hlock, hclear, hlog, hstore⟩
  · rintro ⟨t₁, t₂, hfind, hlock, hclear, hlog, hstore⟩
    exact ⟨(), t₁, hfind, hlock.bind_iff.2 <| hclear.bind_iff.2 <| hlog.bind_iff.2 <|
      gives_readFound.2 ⟨rfl, hstore⟩⟩

/-- Taking back a journal changes nothing else. -/
theorem changesOnly_of_cleared (h : t' = t ∨ ¬t.isDirectory (beside place journalSuffix) ∧
    t' = t.erase (beside place journalSuffix)) :
    ChangesOnly [beside place journalSuffix] t t' ∧ ∀ p, t.at? p = none → t'.at? p = none := by
  rcases h with rfl | ⟨hfile, rfl⟩
  · exact ⟨.refl _ _, fun _ => id⟩
  · exact ⟨changesOnly_erase beside_ne_nil hfile, fun _ => at?_erase_of_none hfile beside_ne_nil⟩

/-- A file that was found or made is there. -/
theorem found_of_gives (h : Gives (findStore workDir name address path) base () t) :
    ChangesOnly [storePlace workDir path] base t ∧ ¬base.isDirectory (storePlace workDir path) ∧
      (t.at? (storePlace workDir path)).isSome := by
  obtain ⟨-, -, ⟨hsome, hfile, rfl⟩ | ⟨hnone, -, hdirectory, rfl⟩⟩ := gives_findStore.1 h
  · exact ⟨.refl _ _, hfile, hsome⟩
  · have hfile := not_isDirectory_of_none hnone
    refine ⟨changesOnly_put (.inr hdirectory) hfile (isLeaf_file _), hfile, ?_⟩
    rw [at?_put (.inr hdirectory)]
    rfl

/-- No directory is in the place of an index that is written. -/
theorem not_isDirectory_of_written (h : t.logIndex address place = .written) :
    ¬t.isDirectory (beside place indexSuffix) := by
  intro hdirectory
  rw [logIndex, hdirectory, Bool.or_true] at h
  split at h <;> simp at h

/-- An index that is written changes nothing else. -/
theorem indexed_of_gives (hne : place ≠ []) (hstands : (t.at? place).isSome)
    (h : Gives (openIndex address place) t () t') :
    ChangesOnly [beside place indexSuffix] t t' ∧
      ∀ p, t.at? p = none → t'.at? p = none ∨
        p = beside place indexSuffix ∧ t.logIndex address place = .written := by
  obtain ⟨-, rfl⟩ | ⟨hwritten, rfl⟩ | ⟨-, -, -, rfl⟩ := gives_openIndex.1 h
  · exact ⟨.refl _ _, fun p hp => .inl hp⟩
  · have hchanges := changesOnly_put (admits_beside hne hstands)
      (not_isDirectory_of_written hwritten) (isLeaf_file indexBytes)
    refine ⟨hchanges, fun p hp => ?_⟩
    by_cases hindex : p = beside place indexSuffix
    · exact .inr ⟨hindex, hwritten⟩
    · exact .inl ((hchanges.alike p (by simpa using hindex)).eq_none hp)
  · exact ⟨.refl _ _, fun p hp => .inl hp⟩

/-- A log is put where none is. -/
theorem changesOnly_withLog (hne : place ≠ []) (hstands : (t.at? place).isSome)
    (hfile : ¬t.isDirectory (beside place logSuffix)) :
    ChangesOnly [beside place logSuffix] t (t.withLog place) := by
  rw [withLog]
  split
  · exact .refl _ _
  · exact changesOnly_put (admits_beside hne hstands) hfile (isLeaf_file _)

theorem hasLog_withLog (hne : place ≠ []) (hstands : (t.at? place).isSome)
    (hfile : ¬t.isDirectory place) (hlog : ¬t.isDirectory (beside place logSuffix))
    (h : t.isFilled (beside place logSuffix) ∨ t.isLogged place) :
    (t.withLog place).hasLog place := by
  have hplace : (t.withLog place).at? place = t.at? place :=
    (changesOnly_withLog hne hstands hlog).at?_eq (by simpa using log_ne.symm) hfile
  rw [hasLog, isLogged, hplace, ← isLogged, Bool.or_eq_true, Bool.and_eq_true, withLog]
  split
  · next hfilled => exact .inl hfilled
  · next hfilled =>
    rw [at?_put (admits_beside hne hstands)]
    exact .inr ⟨h.resolve_left hfilled, rfl⟩

/-- **A log that was opened goes with a store that is not empty.** -/
theorem logged_of_gives (hne : place ≠ []) (hstands : (t.at? place).isSome)
    (hfile : ¬t.isDirectory place) (h : Gives (openLog address place) t () t') :
    ChangesOnly [beside place logSuffix, beside place indexSuffix] t t' ∧
      (t'.isLogged place → t'.hasLog place) ∧
      (t'.hasLog place →
        AdmitsLogs address ∧ ¬t.isDirectory (beside place logSuffix) ∧ ¬t.isBlank place) ∧
      ∀ p, t.at? p = none → t'.at? p = none ∨
        t'.hasLog place ∧ (p = beside place logSuffix ∨
          p = beside place indexSuffix ∧ t.logIndex address place = .written) := by
  obtain ⟨hempty, hunlogged, rfl⟩ | ⟨hneeds, hlog, ⟨hblank, rfl⟩ | ⟨hfull, hadmits, hindex⟩⟩ :=
    gives_openLog.1 h
  · refine ⟨.refl _ _, fun hlogged => absurd hlogged hunlogged, fun hhas => ?_, fun p hp => .inl hp⟩
    simp [hasLog, hempty, hunlogged] at hhas
  · have hchanges := changesOnly_erase beside_ne_nil hlog
    have hplace : (t.erase (beside place logSuffix)).isLogged place = false := by
      rw [isLogged, hchanges.at?_eq (by simpa using log_ne.symm) hfile]
      exact isLogged_of_isBlank hblank
    have hhas : (t.erase (beside place logSuffix)).hasLog place = false := by
      rw [hasLog, hplace, isFilled, at?_erase beside_ne_nil]
      rfl
    exact ⟨hchanges.mono (by simp), by simp [hplace], by simp [hhas],
      fun p hp => .inl (at?_erase_of_none hlog beside_ne_nil hp)⟩
  · have hchanges := changesOnly_withLog hne hstands hlog
    have hstands' : ((t.withLog place).at? place).isSome := by
      rwa [hchanges.at?_eq (by simpa using log_ne.symm) hfile]
    obtain ⟨hchanges', hmissing⟩ := indexed_of_gives hne hstands' hindex
    have hhas : t'.hasLog place := by
      have hfile' : ¬(t.withLog place).isDirectory place := by rwa [hchanges.isDirectory]
      rw [hasLog_congr (hchanges'.alike _ (by simpa using log_ne_index))]
      · exact hasLog_withLog hne hstands hfile hlog hneeds
      · rw [isLogged, isLogged, hchanges'.at?_eq (by simpa using index_ne.symm) hfile']
    refine ⟨(hchanges.mono (by simp)).trans (hchanges'.mono (by simp)), fun _ => hhas,
      fun _ => ⟨hadmits, hlog, hfull⟩, fun p hp => ?_⟩
    by_cases hp' : p = beside place logSuffix
    · exact .inr ⟨hhas, .inl hp'⟩
    · rcases hmissing p ((hchanges.alike p (by simpa using hp')).eq_none hp) with h | ⟨h, hwritten⟩
      · exact .inl h
      · exact .inr ⟨hhas, .inr ⟨h, (logIndex_congr hchanges).symm.trans hwritten⟩⟩

/-- **An open store is in use.** -/
theorem using_of_openStoreAt (hkept : KeptAt workDir name address path place)
    (himmutable : address.isImmutable = false)
    (h : Gives (openStoreAt workDir name address) base s t) : Using address place base t := by
  obtain ⟨-, hpath, rfl, hne⟩ := hkept
  obtain ⟨t₁, t₂, hfind, -, hclear, hlog, -⟩ := (gives_openStoreAt hpath himmutable).1 h
  obtain ⟨hchanges₁, hfile, hstands₁⟩ := found_of_gives hfind
  obtain ⟨hcleared, hbars⟩ := cleared_of_gives hclear
  obtain ⟨hchanges₂, hmissing₂⟩ := changesOnly_of_cleared hcleared
  generalize storePlace workDir path = place at *
  have hfile₁ : ¬t₁.isDirectory place := by rwa [hchanges₁.isDirectory]
  have hplace₂ : t₂.at? place = t₁.at? place :=
    hchanges₂.at?_eq (by simpa using journal_ne.symm) hfile₁
  have hstands₂ : (t₂.at? place).isSome := by rwa [hplace₂]
  have hfile₂ : ¬t₂.isDirectory place := by rwa [hchanges₂.isDirectory]
  have hbase₂ : ChangesOnly (place :: filesBeside place) base t₂ :=
    (hchanges₁.mono (by simp)).trans (hchanges₂.mono (by simp [filesBeside]))
  obtain ⟨hchanges₃, hlogged, hadmits, hmissing₃⟩ := logged_of_gives hne hstands₂ hfile₂ hlog
  refine ⟨hbase₂.trans (hchanges₃.mono (by simp [filesBeside])), hfile, ?_, hlogged, fun hhas => ?_,
    fun p hp hnone => ?_⟩
  · rwa [hchanges₃.at?_eq (by simp [log_ne.symm, index_ne.symm]) hfile₂]
  · obtain ⟨hadmits, hlog, hfull⟩ := hadmits hhas
    rw [hbase₂.isDirectory] at hlog
    rw [isBlank, hplace₂, ← isBlank] at hfull
    refine ⟨hadmits, hlog, ?_⟩
    rw [← hchanges₁.isDirectory]
    refine hbars (fun he => ?_) hfull
    rcases hadmits.2 with h | h <;> rw [h] at he <;> cases he
  · rw [← logIndex_congr hbase₂]
    exact hmissing₃ p (hmissing₂ p ((hchanges₁.alike p (by simpa using hp)).eq_none hnone))

end FileTree
end JoinWizard
