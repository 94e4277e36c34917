/-
# What a change of a tree leaves alone

Putting a file somewhere, or taking away what is there, changes what stands there, and what stands
in the directories above.  Everywhere else a file is the file it was and a directory is still a
directory, though not always with the same things in it (`alike_put`, `alike_erase`).

| a change of files at some places leaves | because |
| --- | --- |
| every other file, and what is missing | nothing stands below a file (`ChangesOnly`) |
| every directory | no file takes the place of one |
| where a path leads | its steps are taken from directories (`walk_of_directories`) |
| that a directory can be had at a path | it is there (`ensureDirectories_again`) |

So what is read at the path of a file is the text that was written there last
(`readText_of_writeText`).  What a path leads to can be put there: if nothing stands there yet, the
place is in a directory (`admits_of_locate`).
-/

import JoinWizard.Files.Tree
import JoinWizard.Proofs.NameMap
import Mathlib.Tactic.ByContra
import Mathlib.Tactic.SplitIfs

namespace JoinWizard
namespace FileTree

variable {t t' t'' new x : FileTree} {place other : List FileName} {places : List (List FileName)}

/-- Whether a tree is no directory. -/
def IsLeaf (x : FileTree) : Prop := ∀ entries, x ≠ .directory entries

/-- Whether a tree has nothing below its top. -/
def IsBare (x : FileTree) : Prop := ∀ name below, x.at? (name :: below) = none

/-- Whether what stands somewhere is the same as before, or a directory as before. -/
def Alike (x y : Option FileTree) : Prop :=
  y = x ∨ (∃ entries, x = some (.directory entries)) ∧ ∃ entries, y = some (.directory entries)

/-- Whether something can be put at a place: something stands there, or it is in a directory. -/
def Admits (t : FileTree) (place : List FileName) : Prop :=
  (t.at? place).isSome ∨ t.isDirectory place.dropLast

theorem alike_directory {entries entries' : List (FileName × FileTree)} :
    Alike (some (.directory entries)) (some (.directory entries')) :=
  .inr ⟨⟨entries, rfl⟩, entries', rfl⟩

namespace Alike

variable {x y z : Option FileTree}

theorem refl (x : Option FileTree) : Alike x x := .inl rfl

theorem trans (h : Alike x y) (h' : Alike y z) : Alike x z := by
  rcases h with rfl | ⟨hx, hy⟩
  · exact h'
  · rcases h' with rfl | ⟨-, hz⟩
    · exact .inr ⟨hx, hy⟩
    · exact .inr ⟨hx, hz⟩

/-- What was missing is missing. -/
theorem eq_none (h : Alike x y) (hx : x = none) : y = none := by
  rcases h with rfl | ⟨⟨entries, he⟩, -⟩
  · exact hx
  · rw [hx] at he
    cases he

theorem isSome_eq (h : Alike x y) : y.isSome = x.isSome := by
  rcases h with rfl | ⟨⟨_, rfl⟩, _, rfl⟩ <;> rfl

end Alike

theorem isLeaf_file (bytes : ByteArray) : IsLeaf (.file bytes) := fun _ => FileTree.noConfusion

theorem isLeaf_store (s : Store) (isLogged : Bool) : IsLeaf (.store s isLogged) :=
  fun _ => FileTree.noConfusion

/-- Only a directory has something in it. -/
theorem IsLeaf.isBare (h : x.IsLeaf) : x.IsBare := by
  intro name below
  rw [at?]
  cases x with
  | directory entries => exact absurd rfl (h entries)
  | file | store => rfl

theorem isBare_empty : IsBare empty := fun _ _ => rfl

theorem isDirectory_iff :
    t.isDirectory place ↔ ∃ entries, t.at? place = some (.directory entries) := by
  rw [isDirectory]
  split
  · next entries h => exact iff_of_true rfl ⟨entries, h⟩
  · next h => exact iff_of_false Bool.false_ne_true fun ⟨entries, he⟩ => h entries he

theorem not_isDirectory_of_none (h : t.at? place = none) : ¬t.isDirectory place := by
  rw [isDirectory, h]
  exact Bool.false_ne_true

theorem not_isDirectory_of_isLeaf (h : t.at? place = some x) (hleaf : x.IsLeaf) :
    ¬t.isDirectory place := by
  rw [isDirectory_iff, h]
  rintro ⟨entries, he⟩
  exact hleaf entries (Option.some.inj he)

theorem Alike.isDirectory_eq (h : Alike (t.at? place) (t'.at? place)) :
    t'.isDirectory place = t.isDirectory place := by
  rw [isDirectory, isDirectory]
  rcases h with h | ⟨⟨_, h⟩, _, h'⟩
  · rw [h]
  · rw [h, h']

theorem at?_append (t : FileTree) (above below : List FileName) :
    t.at? (above ++ below) = (t.at? above).bind (·.at? below) := by
  induction above generalizing t with
  | nil => rfl
  | cons name above ih =>
    rw [List.cons_append, at?, at?]
    cases t.child? name with
    | none => rfl
    | some c => exact ih c

/-- What stands above a place where something stands is a directory. -/
theorem isDirectory_of_prefix (h : (t.at? place).isSome) (habove : other <+: place)
    (hne : other ≠ place) : t.isDirectory other := by
  obtain ⟨below, rfl⟩ := habove
  obtain ⟨name, below, rfl⟩ : ∃ name rest, below = name :: rest :=
    List.exists_cons_of_ne_nil fun hnil => hne (by rw [hnil, List.append_nil])
  rw [at?_append] at h
  obtain ⟨y, hy⟩ := Option.isSome_iff_exists.1 (Option.isSome_of_isSome_bind h)
  rw [hy, Option.bind_some] at h
  rw [isDirectory_iff]
  cases y with
  | directory entries => exact ⟨entries, hy⟩
  | file bytes => rw [(isLeaf_file bytes).isBare] at h; cases h
  | store s isLogged => rw [(isLeaf_store s isLogged).isBare] at h; cases h

theorem at?_isSome_of_prefix (h : (t.at? place).isSome) (habove : other <+: place) :
    (t.at? other).isSome := by
  obtain ⟨below, rfl⟩ := habove
  rw [at?_append] at h
  exact Option.isSome_of_isSome_bind h

/-! ## Entries -/

theorem lookup_setEntry {name key : FileName} {entries : List (FileName × FileTree)} :
    (setEntry name new entries).lookup key =
      if key = name then some new else entries.lookup key := by
  induction entries with
  | nil =>
    rw [setEntry, List.lookup_cons]
    split <;> simp_all
  | cons e rest ih =>
    obtain ⟨k, old⟩ := e
    rw [setEntry]
    split
    · next h =>
      subst h
      rw [List.lookup_cons, List.lookup_cons]
      split <;> simp_all
    · next h =>
      rw [List.lookup_cons, List.lookup_cons, ih]
      by_cases hk : key = k
      · subst hk
        simp [h]
      · simp [beq_eq_false_iff_ne.2 hk]

theorem at?_setEntry_of_ne {name key : FileName} {entries : List (FileName × FileTree)}
    (h : key ≠ name) (below : List FileName) :
    (directory (setEntry name new entries)).at? (key :: below) =
      (directory entries).at? (key :: below) := by
  rw [at?, at?, child?, child?, lookup_setEntry, if_neg h]

theorem at?_setEntry_self {name : FileName} {entries : List (FileName × FileTree)}
    (below : List FileName) :
    (directory (setEntry name new entries)).at? (name :: below) = new.at? below := by
  rw [at?, child?, lookup_setEntry, if_pos rfl]

/-! ## Putting and erasing -/

/-- **What was put at a place stands there.** -/
theorem at?_put (h : t.Admits place) : (t.put new place).at? place = some new := by
  induction place generalizing t with
  | nil => rfl
  | cons name rest ih =>
    obtain ⟨entries, rfl⟩ : ∃ entries, t = .directory entries := by
      by_contra hne
      have hleaf : t.IsLeaf := fun entries he => hne ⟨entries, he⟩
      rcases h with h | h
      · simp [hleaf.isBare name rest] at h
      · obtain ⟨entries, he⟩ := isDirectory_iff.1 h
        cases rest with
        | nil => exact hne ⟨entries, Option.some.inj he⟩
        | cons next rest => simp [hleaf.isBare name _] at he
    rw [put]
    cases hc : entries.lookup name with
    | some c =>
      rw [at?_setEntry_self]
      refine ih ?_
      simp only [Admits, isDirectory] at h ⊢
      cases rest with
      | nil => exact .inl rfl
      | cons => simpa [at?, child?, hc] using h
    | none =>
      cases rest with
      | nil =>
        show (directory (setEntry name new entries)).at? [name] = _
        rw [at?_setEntry_self]
        rfl
      | cons => simp [Admits, isDirectory, at?, child?, hc] at h

/-- **What is put where no directory is changes nothing elsewhere,** but what is in the directories
above. -/
theorem alike_put (hfile : ¬t.isDirectory place) (hbare : new.IsBare) (hne : other ≠ place) :
    Alike (t.at? other) ((t.put new place).at? other) := by
  induction place generalizing t other with
  | nil =>
    obtain ⟨name, below, rfl⟩ := List.exists_cons_of_ne_nil hne
    have ht : t.IsLeaf := fun entries he => hfile (isDirectory_iff.2 ⟨entries, congrArg some he⟩)
    exact .inl ((hbare name below).trans (ht.isBare name below).symm)
  | cons name rest ih =>
    cases t with
    | file | store => exact .refl _
    | directory entries =>
      rw [put]
      cases other with
      | nil =>
        cases entries.lookup name with
        | some c => exact alike_directory
        | none =>
          dsimp only
          split <;> exact alike_directory
      | cons key below =>
        by_cases hkey : key = name
        · subst hkey
          have hrest : below ≠ rest := fun h => hne (by rw [h])
          cases hc : entries.lookup key with
          | some c =>
            have hat (q : List FileName) : (directory entries).at? (key :: q) = c.at? q := by
              rw [at?, child?, hc]
            rw [at?_setEntry_self, hat]
            refine ih ?_ hrest
            rwa [isDirectory, ← hat]
          | none =>
            cases rest with
            | nil =>
              obtain ⟨_, _, rfl⟩ := List.exists_cons_of_ne_nil hrest
              show Alike _ ((directory (setEntry key new entries)).at? _)
              rw [at?_setEntry_self, hbare, at?, child?, hc]
              exact .refl none
            | cons => exact .refl _
        · cases entries.lookup name with
          | some c => exact .inl (at?_setEntry_of_ne hkey below)
          | none =>
            dsimp only
            split
            · exact .inl (at?_setEntry_of_ne hkey below)
            · exact .refl _

/-- What is taken away is gone. -/
theorem at?_erase (h : place ≠ []) : (t.erase place).at? place = none := by
  induction place generalizing t with
  | nil => exact absurd rfl h
  | cons name rest ih =>
    cases t with
    | file bytes => exact (isLeaf_file bytes).isBare name rest
    | store s isLogged => exact (isLeaf_store s isLogged).isBare name rest
    | directory entries =>
      rw [erase]
      cases rest with
      | nil =>
        show (directory (entries.filter (·.1 ≠ name))).at? [name] = none
        rw [at?, child?, lookup_filter_ne, if_pos rfl]
      | cons next rest =>
        cases hc : entries.lookup name with
        | some c =>
          show (directory (setEntry name (c.erase (next :: rest)) entries)).at? _ = none
          rw [at?_setEntry_self]
          exact ih (List.cons_ne_nil _ _)
        | none =>
          show (directory entries).at? _ = none
          rw [at?, child?, hc]

/-- **Taking away a file takes away nothing else.** -/
theorem alike_erase (hfile : ¬t.isDirectory place) (hne : other ≠ place) :
    Alike (t.at? other) ((t.erase place).at? other) := by
  induction place generalizing t other with
  | nil => exact .refl _
  | cons name rest ih =>
    cases t with
    | file | store => exact .refl _
    | directory entries =>
      rw [erase]
      cases other with
      | nil =>
        split
        · exact alike_directory
        · cases entries.lookup name <;> exact alike_directory
      | cons key below =>
        by_cases hkey : key = name
        · subst hkey
          have hrest : below ≠ rest := fun h => hne (by rw [h])
          have hat {c : FileTree} (hc : entries.lookup key = some c) (q : List FileName) :
              (directory entries).at? (key :: q) = c.at? q := by
            rw [at?, child?, hc]
          split
          · next hnil =>
            obtain rfl := List.isEmpty_iff.1 hnil
            obtain ⟨next, below, rfl⟩ := List.exists_cons_of_ne_nil hrest
            show Alike _ ((directory (entries.filter (·.1 ≠ key))).at? _)
            rw [at?, at?, child?, child?, lookup_filter_ne, if_pos rfl]
            cases hc : entries.lookup key with
            | none => exact .refl none
            | some c =>
              have hleaf : c.IsLeaf := by
                intro sub he
                exact hfile (isDirectory_iff.2 ⟨sub, by rw [hat hc, he]; rfl⟩)
              exact .inl (hleaf.isBare next below).symm
          · cases hc : entries.lookup key with
            | some c =>
              show Alike _ ((directory (setEntry key (c.erase rest) entries)).at? _)
              rw [at?_setEntry_self, hat hc]
              refine ih ?_ hrest
              rwa [isDirectory, ← hat hc]
            | none => exact .refl _
        · refine .inl ?_
          split
          · show (directory (entries.filter (·.1 ≠ name))).at? _ = _
            rw [at?, at?, child?, child?, lookup_filter_ne, if_neg hkey]
          · cases entries.lookup name with
            | some c => exact at?_setEntry_of_ne hkey below
            | none => rfl

/-- Taking away a file brings nothing about. -/
theorem at?_erase_of_none (hfile : ¬t.isDirectory place) (hne : place ≠ [])
    (h : t.at? other = none) : (t.erase place).at? other = none := by
  by_cases hother : other = place
  · rw [hother, at?_erase hne]
  · exact (alike_erase hfile hother).eq_none h

/-! ## Changes of files -/

/-- Whether a tree differs from another only in files at some places. -/
structure ChangesOnly (places : List (List FileName)) (t t' : FileTree) : Prop where
  isDirectory : ∀ p, t'.isDirectory p = t.isDirectory p
  alike : ∀ p, p ∉ places → Alike (t.at? p) (t'.at? p)

namespace ChangesOnly

theorem refl (places : List (List FileName)) (t : FileTree) : ChangesOnly places t t :=
  ⟨fun _ => rfl, fun _ _ => .refl _⟩

theorem trans (h : ChangesOnly places t t') (h' : ChangesOnly places t' t'') :
    ChangesOnly places t t'' :=
  ⟨fun p => (h'.isDirectory p).trans (h.isDirectory p),
    fun p hp => (h.alike p hp).trans (h'.alike p hp)⟩

theorem mono {more : List (List FileName)} (h : ChangesOnly places t t')
    (hmore : ∀ p ∈ places, p ∈ more) : ChangesOnly more t t' :=
  ⟨h.isDirectory, fun p hp => h.alike p fun hin => hp (hmore p hin)⟩

/-- A file elsewhere is the file it was. -/
theorem at?_eq (h : ChangesOnly places t t') (hplace : place ∉ places)
    (hfile : ¬t.isDirectory place) : t'.at? place = t.at? place := by
  refine (h.alike place hplace).resolve_right ?_
  rintro ⟨hdirectory, -⟩
  exact hfile (isDirectory_iff.2 hdirectory)

end ChangesOnly

/-- Whatever is alike elsewhere, a file in the place of another file changes no directory. -/
theorem changesOnly_of_alike (hfile : ¬t.isDirectory place) (hfile' : ¬t'.isDirectory place)
    (h : ∀ p, p ≠ place → Alike (t.at? p) (t'.at? p)) : ChangesOnly [place] t t' := by
  refine ⟨fun p => ?_, fun p hp => h p fun he => hp (List.mem_singleton.2 he)⟩
  by_cases hp : p = place
  · rw [hp, eq_false_of_ne_true hfile, eq_false_of_ne_true hfile']
  · exact (h p hp).isDirectory_eq

theorem changesOnly_put (hadmits : t.Admits place) (hfile : ¬t.isDirectory place)
    (hleaf : new.IsLeaf) : ChangesOnly [place] t (t.put new place) :=
  changesOnly_of_alike hfile (not_isDirectory_of_isLeaf (at?_put hadmits) hleaf) fun _ hp =>
    alike_put hfile hleaf.isBare hp

theorem changesOnly_erase (hne : place ≠ []) (hfile : ¬t.isDirectory place) :
    ChangesOnly [place] t (t.erase place) :=
  changesOnly_of_alike hfile (not_isDirectory_of_none (at?_erase hne)) fun _ hp =>
    alike_erase hfile hp

/-- A directory stays one when something is put where no directory is. -/
theorem isDirectory_put (hfile : ¬t.isDirectory place) (hbare : new.IsBare) :
    t.isDirectory other → (t.put new place).isDirectory other := by
  intro h
  rw [(alike_put hfile hbare fun he => hfile (he ▸ h)).isDirectory_eq]
  exact h

/-! ## Paths -/

/-- A step is taken from a directory. -/
theorem walk_cons {step : FileName} {rest : List FileName} :
    t.walk place (step :: rest) = .ok other ↔
      t.isDirectory place ∧
        if Path.isStill step then t.walk place rest = .ok other
        else if Path.isUp step then t.walk place.dropLast rest = .ok other
        else step.length < nameLimit ∧ t.walk (place ++ [step]) rest = .ok other := by
  rw [walk, isDirectory]
  cases hat : t.at? place with
  | none => simp
  | some found =>
    cases found with
    | file | store => simp
    | directory entries =>
      simp only [true_and]
      split_ifs with _ _ hlong
      · exact Iff.rfl
      · exact Iff.rfl
      · exact iff_of_false nofun fun h => absurd h.1 (Nat.not_lt.2 hlong)
      · exact (and_iff_right (Nat.not_le.1 hlong)).symm

/-- **A path leads where it led**, as long as directories stay directories. -/
theorem walk_of_directories {steps : List FileName} {start : List FileName}
    (hdirectories : ∀ p, t.isDirectory p → t'.isDirectory p)
    (h : t.walk start steps = .ok other) : t'.walk start steps = .ok other := by
  induction steps generalizing start with
  | nil => exact h
  | cons step rest ih =>
    obtain ⟨hstart, hrest⟩ := walk_cons.1 h
    refine walk_cons.2 ⟨hdirectories _ hstart, ?_⟩
    split_ifs at hrest ⊢
    · exact ih hrest
    · exact ih hrest
    · exact ⟨hrest.1, ih hrest.2⟩

/-- What a path leads to is where its steps lead. -/
theorem locate_eq_ok {workDir : List FileName} {path : List UInt8} :
    t.locate workDir path = .ok place ↔
      checkPath path = .ok () ∧ t.walk (startOf workDir path) (Path.steps path) = .ok place := by
  rw [locate]
  cases hcheck : checkPath path with
  | error fault => exact iff_of_false nofun nofun
  | ok _ => exact (and_iff_right rfl).symm

theorem locate_of_directories {workDir : List FileName} {path : List UInt8}
    (hdirectories : ∀ p, t.isDirectory p → t'.isDirectory p)
    (h : t.locate workDir path = .ok place) : t'.locate workDir path = .ok place := by
  obtain ⟨hcheck, hwalk⟩ := locate_eq_ok.1 h
  exact locate_eq_ok.2 ⟨hcheck, walk_of_directories hdirectories hwalk⟩

/-- Something is found at a path if something stands where it leads. -/
theorem look_isOk {workDir : List FileName} {path : List UInt8} :
    (t.look workDir path).isOk ↔
      ∃ place, t.locate workDir path = .ok place ∧ (t.at? place).isSome := by
  rw [look]
  cases hlocate : t.locate workDir path with
  | error fault => exact iff_of_false nofun nofun
  | ok place =>
    simp only [bind, Except.bind, Except.ok.injEq, exists_eq_left']
    cases t.at? place with
    | some found => exact iff_of_true rfl rfl
    | none => exact iff_of_false nofun nofun

/-- Where steps lead at all, they lead where they would lead without a look at what is there. -/
theorem eq_follow_of_walk {steps : List FileName} {start : List FileName}
    (h : t.walk start steps = .ok other) : other = Path.follow start steps := by
  induction steps generalizing start with
  | nil => exact (Except.ok.inj h).symm
  | cons step rest ih =>
    obtain ⟨-, hrest⟩ := walk_cons.1 h
    rw [Path.follow]
    split_ifs at hrest ⊢
    · exact ih hrest
    · exact ih hrest
    · exact ih hrest.2

theorem admits_of_walk {steps : List FileName} {start : List FileName} (hne : steps ≠ [])
    (h : t.walk start steps = .ok other) : t.Admits other := by
  induction steps generalizing start with
  | nil => exact absurd rfl hne
  | cons step rest ih =>
    obtain ⟨hstart, hrest⟩ := walk_cons.1 h
    obtain ⟨entries, he⟩ := isDirectory_iff.1 hstart
    have hsome : (t.at? start).isSome := by rw [he]; rfl
    rcases rest.eq_nil_or_concat with rfl | hconcat
    · simp only [walk, Except.ok.injEq] at hrest
      split_ifs at hrest
      · exact .inl (hrest ▸ hsome)
      · exact .inl (hrest ▸ at?_isSome_of_prefix hsome (List.dropLast_prefix start))
      · exact .inr (by rw [← hrest.2, List.dropLast_concat]; exact hstart)
    · have hrest' : rest ≠ [] := by
        obtain ⟨_, _, rfl⟩ := hconcat
        simp
      split_ifs at hrest
      · exact ih hrest' hrest
      · exact ih hrest' hrest
      · exact ih hrest' hrest.2

/-- **Something can be put where a path leads.** -/
theorem admits_of_locate {workDir : List FileName} {path : List UInt8}
    (h : t.locate workDir path = .ok place) : t.Admits place := by
  exact admits_of_walk (List.splitOn_ne_nil _ _) (locate_eq_ok.1 h).2

/-! ## Directories -/

section

variable {workDir : List FileName} {path : String}

/-- A directory that is at a path is had without a change. -/
theorem ensureDirectory_of_isDirectory (hlocate : t.locate workDir (Utf8.bytes path) = .ok place)
    (h : t.isDirectory place) : t.ensureDirectory workDir path = .ok t := by
  obtain ⟨entries, he⟩ := isDirectory_iff.1 h
  have hmake : t.makeDirectory workDir path = .error .alreadyExists := by
    simp [makeDirectory, hlocate, he, bind, Except.bind, throw, throwThe, MonadExceptOf.throw]
  have hlook : t.look workDir (Utf8.bytes path) = .ok (.directory entries) := by
    simp [look, hlocate, he, bind, Except.bind, pure, Except.pure]
  rw [ensureDirectory, hmake]
  dsimp only
  rw [hlook]

/-- **A directory that is had at a path is there.** -/
theorem isDirectory_of_ensureDirectory (h : t.ensureDirectory workDir path = .ok t') :
    ∃ place, t'.locate workDir (Utf8.bytes path) = .ok place ∧ t'.isDirectory place := by
  unfold ensureDirectory makeDirectory look at h
  cases hlocate : t.locate workDir (Utf8.bytes path) with
  | error fault =>
    simp only [hlocate, bind, Except.bind] at h
    split at h <;> cases h
  | ok place =>
    simp only [hlocate, bind, Except.bind] at h
    cases hat : t.at? place with
    | none =>
      rw [hat] at h
      obtain rfl := Except.ok.inj h
      have hfile := not_isDirectory_of_none hat
      refine ⟨place,
        locate_of_directories (fun _ => isDirectory_put hfile isBare_empty) hlocate, ?_⟩
      exact isDirectory_iff.2 ⟨[], at?_put (admits_of_locate hlocate)⟩
    | some found =>
      simp only [hat, Option.isSome_some, if_true, pure, Except.pure] at h
      cases found with
      | directory entries =>
        obtain rfl := Except.ok.inj h
        exact ⟨place, hlocate, isDirectory_iff.2 ⟨entries, hat⟩⟩
      | file | store => cases h

/-- **A directory that was had once is had again without a change.** -/
theorem ensureDirectories_again {paths : List String}
    (hdirectories : ∀ p, t'.isDirectory p → t''.isDirectory p)
    (h : t.ensureDirectories workDir paths = (.ok (), t')) :
    t''.ensureDirectories workDir paths = (.ok (), t'') := by
  cases paths with
  | nil => rfl
  | cons path above =>
    have hmade : ∃ u, ensureDirectory u workDir path = .ok t' := by
      rw [ensureDirectories] at h
      split at h
      · next made hmade =>
        obtain rfl : made = t' := congrArg Prod.snd h
        exact ⟨t, hmade⟩
      · split at h
        · next u _ =>
          split at h
          · next made hmade =>
            obtain rfl : made = t' := congrArg Prod.snd h
            exact ⟨u, hmade⟩
          · cases h
        · next hfailed => exact absurd h (hfailed t')
      · cases h
    obtain ⟨u, hmade⟩ := hmade
    obtain ⟨place, hlocate, hplace⟩ := isDirectory_of_ensureDirectory hmade
    rw [ensureDirectories, ensureDirectory_of_isDirectory
      (locate_of_directories hdirectories hlocate) (hdirectories place hplace)]

end

/-! ## Texts -/

/-- The bytes of a text are read as that text. -/
theorem fileText_toUTF8 (text : String) : fileText text.toUTF8 = .ok text := by
  have hvalid : text.toUTF8.IsValidUTF8 := text.isValidUTF8
  rw [fileText, String.fromUTF8?, dif_pos hvalid]
  rfl

/-- **What is read at a path is the text that was written there last.** -/
theorem readText_of_writeText {workDir : List FileName} {path text : String}
    (h : t.writeText workDir path text = .ok t') : t'.readText workDir path = .ok text := by
  rw [writeText] at h
  cases hcheck : checkPath (Utf8.bytes path) with
  | error fault => simp [hcheck, bind, Except.bind] at h
  | ok _ =>
    simp only [hcheck, bind, Except.bind] at h
    split at h
    · split at h <;> cases h
    · cases hplace : t.locate workDir (Utf8.bytes path) with
      | error fault => simp [hplace] at h
      | ok place =>
        simp only [hplace] at h
        split at h
        · cases h
        · next hfile =>
          obtain rfl := Except.ok.inj h
          have hlocate : (t.put (.file text.toUTF8) place).locate workDir (Utf8.bytes path) =
              .ok place :=
            locate_of_directories (fun _ => isDirectory_put hfile (isLeaf_file _).isBare) hplace
          have hat : (t.put (.file text.toUTF8) place).at? place = some (.file text.toUTF8) :=
            at?_put (admits_of_locate hplace)
          simp only [readText, look, hlocate, bind, Except.bind, hat]
          exact fileText_toUTF8 text

end FileTree
end JoinWizard
