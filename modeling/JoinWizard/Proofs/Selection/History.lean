/-
# A selection is what its history left standing

A selection is changed in four ways: tables are added, taken out by name, taken out where a
condition refuses them, or all taken out.  Not everything that is asked for takes effect: a table
is inserted only if its name is not selected, and a name is taken out only if it is.

What took effect is a log of events, kept without looking at the selection: whether a name is
selected is read off the last event on it (`Log.last?`).  Whatever the history, the selection that
starts empty holds exactly the insertions that no later event on their name followed, in the order
in which they happened (`Selection.ordered_by_insertion`).  So one table has a name, and it is the
one that was inserted: tables of the name that are added later take no effect.

One change reports what it did, and that is what the log gains.
-/

import JoinWizard.Proofs.Selection
import Mathlib.Data.List.Induction

namespace JoinWizard
namespace Selection

/-- One change of a selection. -/
inductive Edit where
  | add (tables : List Table)
  | remove (names : List String)
  /-- A condition is asked once of each table, so it is a function of the table. -/
  | retain (keep : Table → Bool)
  | clear

/-- The selection after one change. -/
def edit (s : Selection) : Edit → Selection
  | .add tables => s.add tables
  | .remove names => (s.remove names).2
  | .retain keep => (s.retain keep).2
  | .clear => {}

/-- The selection after a history of changes. -/
def after (s : Selection) (history : List Edit) : Selection := history.foldl edit s

/-- Something that took effect. -/
inductive Event where
  | inserted (table : Table)
  | takenOut (name : String)
  deriving DecidableEq

/-- The name an event is about. -/
def Event.name : Event → String
  | inserted t => t.name
  | takenOut name => name

/-- What took effect, in the order in which it happened. -/
abbrev Log := List Event

namespace Log

/-- The last event on a name. -/
def last? (log : Log) (name : String) : Option Event := log.reverse.find? (·.name = name)

/-- The table that stands under a name: the last event on the name inserted it. -/
def table? (log : Log) (name : String) : Option Table :=
  match log.last? name with
  | some (.inserted t) => some t
  | _ => none

/-- The insertions that no later event on their name followed. -/
def standing : Log → List Table
  | [] => []
  | .inserted t :: later =>
    if later.any (·.name = t.name) then standing later else t :: standing later
  | .takenOut _ :: later => standing later

/-- A table is offered, and inserted if its name is free. -/
def offer (log : Log) (t : Table) : Log :=
  if (log.table? t.name).isNone then log ++ [.inserted t] else log

/-- A name is called, and taken out if a table stands under it. -/
def call (log : Log) (name : String) : Log :=
  if (log.table? name).isSome then log ++ [.takenOut name] else log

/-- The log after a change. -/
def edit (log : Log) : Edit → Log
  | .add tables => tables.foldl offer log
  | .remove names => names.foldl call log
  | .retain keep => log ++ (log.standing.filter fun t => !keep t).map (.takenOut ·.name)
  | .clear => log ++ log.standing.map (.takenOut ·.name)

/-- What took effect in a history. -/
def ofHistory (history : List Edit) : Log := history.foldl edit []

variable {log : Log} {name : String} {t : Table}

/-! ## Reading the log -/

theorem last?_snoc (log : Log) (e : Event) (name : String) :
    last? (log ++ [e]) name = if e.name = name then some e else log.last? name := by
  rw [last?, List.reverse_append, List.reverse_singleton, List.singleton_append, List.find?_cons]
  by_cases he : e.name = name
  · simp [he]
  · simp [he, last?]

/-- An event puts an end to what stood under its name. -/
theorem standing_snoc (log : Log) (e : Event) :
    standing (log ++ [e]) = log.standing.filter (·.name ≠ e.name) ++ standing [e] := by
  induction log with
  | nil => rfl
  | cons first later ih =>
    cases first with
    | takenOut name => exact ih
    | inserted t =>
      rw [List.cons_append, standing, standing, List.any_append, ih]
      by_cases hlater : later.any (·.name = t.name) = true
      · simp [hlater]
      · by_cases he : e.name = t.name
        · simp [hlater, he]
        · simp [hlater, he, Ne.symm he]

theorem standing_inserted (log : Log) (t : Table) :
    standing (log ++ [.inserted t]) = log.standing.filter (·.name ≠ t.name) ++ [t] :=
  standing_snoc log _

theorem standing_takenOut (log : Log) (name : String) :
    standing (log ++ [.takenOut name]) = log.standing.filter (·.name ≠ name) :=
  (standing_snoc log _).trans (List.append_nil _)

/-- **A table stands exactly if the last event on its name inserted it.** -/
theorem mem_standing_iff : t ∈ log.standing ↔ log.last? t.name = some (.inserted t) := by
  induction log using List.reverseRecOn with
  | nil => simp [standing, last?]
  | append_singleton log e ih =>
    rw [last?_snoc]
    cases e with
    | inserted u =>
      rw [standing_inserted, List.mem_append, List.mem_filter, List.mem_singleton, ih]
      by_cases he : u.name = t.name
      · simp [Event.name, he, eq_comm]
      · have hne : t ≠ u := fun h => he (h ▸ rfl)
        simp [Event.name, he, Ne.symm he, hne]
    | takenOut name =>
      rw [standing_takenOut, List.mem_filter, ih]
      by_cases he : name = t.name
      · simp [Event.name, he]
      · simp [Event.name, he, Ne.symm he]

theorem nodup_names_standing (log : Log) : (Table.names log.standing).Nodup := by
  induction log using List.reverseRecOn with
  | nil => exact List.nodup_nil
  | append_singleton log e ih =>
    have hrest : (Table.names ((standing log).filter (·.name ≠ e.name))).Nodup :=
      ih.sublist (Table.names_sublist List.filter_sublist)
    rw [standing_snoc, Table.names_append]
    cases e with
    | inserted t =>
      refine List.nodup_append.2 ⟨hrest, List.nodup_singleton _, fun n hn m hm hnm => ?_⟩
      obtain ⟨u, hu, rfl⟩ := Table.mem_names.1 hn
      exact of_decide_eq_true (List.mem_filter.1 hu).2 (hnm.trans (List.mem_singleton.1 hm))
    | takenOut name => exact (List.append_nil _).symm ▸ hrest

theorem table?_eq_some_iff : log.table? name = some t ↔ log.last? name = some (.inserted t) := by
  rw [table?]
  split
  · next u hu => simp [hu]
  · next hno =>
    exact ⟨fun h => (nomatch h), fun h => (hno t h).elim⟩

/-- The name of the last event on a name. -/
theorem name_of_last? {e : Event} (h : log.last? name = some e) : e.name = name := by
  simpa using List.find?_some h

/-- The table that stands under a name is the one of that name. -/
theorem table?_eq_named? (log : Log) (name : String) :
    log.table? name = Table.named? name log.standing := by
  refine Option.ext fun t => ?_
  rw [table?_eq_some_iff]
  constructor
  · intro h
    obtain rfl : t.name = name := name_of_last? h
    exact Table.named?_of_mem (nodup_names_standing log) (mem_standing_iff.2 h)
  · intro h
    obtain rfl : t.name = name := Table.name_of_named? h
    exact mem_standing_iff.1 (Table.mem_of_named? h)

/-! ## One change -/

/-- The selection of the tables that stand. -/
def selection (log : Log) : Selection := ⟨log.standing⟩

/-- The log sees a name as selected exactly if the selection has it. -/
theorem isSome_table? (log : Log) (name : String) :
    (log.table? name).isSome = log.selection.contains name := by
  rw [table?_eq_named?, Bool.eq_iff_iff, contains_iff, Table.isSome_named?]
  rfl

theorem nodup_names_selection (log : Log) : log.selection.names.Nodup := nodup_names_standing log

theorem selection_inserted (h : log.selection.contains t.name = false) :
    selection (log ++ [.inserted t]) = ⟨log.standing ++ [t]⟩ := by
  have hfree : log.standing.filter (·.name ≠ t.name) = log.standing := by
    refine List.filter_eq_self.2 fun u hu => ?_
    have : u.name ≠ t.name := fun he =>
      contains_eq_false_iff.1 h (he ▸ Table.mem_names_of_mem hu)
    simpa using this
  rw [selection, standing_inserted, hfree]

theorem selection_takenOut (log : Log) (name : String) :
    selection (log ++ [.takenOut name]) = log.selection.erase name :=
  congrArg Selection.mk
    ((standing_takenOut log name).trans (tables_erase (nodup_names_selection log) name).symm)

/-- **The tables that are added** are offered one by one, and those that take effect are the
additions. -/
theorem edit_add (log : Log) (tables : List Table) :
    log.edit (.add tables) = log ++ (log.selection.additions tables).map .inserted ∧
      (log.edit (.add tables)).selection = log.selection.add tables := by
  show tables.foldl offer log = _ ∧ selection (tables.foldl offer log) = _
  induction tables generalizing log with
  | nil => exact ⟨(List.append_nil _).symm, congrArg Selection.mk (List.append_nil _).symm⟩
  | cons t ts ih =>
    rw [List.foldl_cons, offer, add, additions_cons, ← Option.not_isSome, isSome_table?]
    cases hc : log.selection.contains t.name with
    | true => exact ih log
    | false =>
      obtain ⟨hlog, hselection⟩ := ih (log ++ [.inserted t])
      rw [selection_inserted hc] at hlog hselection
      refine ⟨hlog.trans (List.append_assoc ..), hselection.trans ?_⟩
      exact congrArg Selection.mk (List.append_assoc ..)

/-- **The names that are called** are taken out one by one, and those that take effect are the
names of the tables that are given back. -/
theorem edit_remove (log : Log) (names : List String) :
    log.edit (.remove names) = log ++ (log.selection.remove names).1.map (.takenOut ·.name) ∧
      (log.edit (.remove names)).selection = (log.selection.remove names).2 := by
  show names.foldl call log = _ ∧ selection (names.foldl call log) = _
  induction names generalizing log with
  | nil => exact ⟨(List.append_nil _).symm, rfl⟩
  | cons name names ih =>
    rw [List.foldl_cons, call, table?_eq_named?]
    cases hf : log.selection.find? name with
    | none =>
      have hn : Table.named? name log.standing = none := hf
      simp only [remove, hf, hn]
      exact ih log
    | some t =>
      have hn : Table.named? name log.standing = some t := hf
      obtain ⟨hlog, hselection⟩ := ih (log ++ [.takenOut name])
      rw [selection_takenOut] at hlog hselection
      simp only [remove, hf, hn]
      refine ⟨hlog.trans ?_, hselection⟩
      rw [List.map_cons, Table.name_of_named? hn]
      exact List.append_assoc ..

/-- Taking tables out leaves those of other names. -/
theorem standing_append_takenOut (log : Log) (gone : List Table) :
    standing (log ++ gone.map (.takenOut ·.name)) =
      log.standing.filter (·.name ∉ Table.names gone) := by
  induction gone generalizing log with
  | nil => simp [Table.names]
  | cons t gone ih =>
    have hsplit : log ++ (t :: gone).map (.takenOut ·.name) =
        (log ++ [.takenOut t.name]) ++ gone.map (.takenOut ·.name) := List.append_cons ..
    rw [hsplit, ih, standing_takenOut, List.filter_filter]
    refine List.filter_congr fun u _ => ?_
    rw [← Bool.decide_and]
    exact decide_eq_decide.2 (by rw [Table.names_cons, List.mem_cons, not_or, and_comm])

/-- **A condition takes out the tables that it refuses,** and no other of their names is there. -/
theorem selection_retain (log : Log) (keep : Table → Bool) :
    (log.edit (.retain keep)).selection = (log.selection.retain keep).2 := by
  refine congrArg Selection.mk ((standing_append_takenOut ..).trans ?_)
  refine List.filter_congr fun t ht => ?_
  rw [Bool.eq_iff_iff, decide_eq_true_iff, Table.mem_names]
  constructor
  · intro h
    by_contra hno
    exact h ⟨t, List.mem_filter.2 ⟨ht, by simpa using hno⟩, rfl⟩
  · rintro hkeep ⟨u, hu, he⟩
    obtain ⟨hmem, hrefused⟩ := List.mem_filter.1 hu
    obtain rfl := Table.eq_of_name_eq (nodup_names_standing log) hmem ht he
    simp [hkeep] at hrefused

theorem selection_clear (log : Log) : (log.edit .clear).selection = {} := by
  refine congrArg Selection.mk ((standing_append_takenOut ..).trans ?_)
  refine List.filter_eq_nil_iff.2 fun t ht => ?_
  simpa using Table.mem_names_of_mem ht

/-- **One change of the log is one change of the selection.** -/
theorem selection_edit (log : Log) (e : Edit) :
    (log.edit e).selection = log.selection.edit e := by
  cases e with
  | add tables => exact (edit_add log tables).2
  | remove names => exact (edit_remove log names).2
  | retain keep => exact selection_retain log keep
  | clear => exact selection_clear log

/-- **So is a history.** -/
theorem selection_ofHistory (history : List Edit) :
    (ofHistory history).selection = ({} : Selection).after history := by
  induction history using List.reverseRecOn with
  | nil => rfl
  | append_singleton history e ih =>
    rw [ofHistory, List.foldl_concat, ← ofHistory, selection_edit, ih, after, after,
      List.foldl_concat]

/-- The number of insertions among what took effect. -/
def insertions (log : Log) : Nat :=
  log.countP fun
    | .inserted _ => true
    | .takenOut _ => false

theorem insertions_append_inserted (log : Log) (tables : List Table) :
    insertions (log ++ tables.map .inserted) = log.insertions + tables.length := by
  rw [insertions, List.countP_append, List.countP_map]
  exact congrArg (_ + ·) (List.countP_eq_length.2 fun _ _ => rfl)

end Log

/-- **A selection keeps the order of insertion over any history.**  After any changes of a selection
that starts empty, its names are distinct, and its tables are those whose insertion no later event
on their name followed, in the order of the insertions: a table is found under a name exactly if the
last event on the name inserted it.  Adding appends the tables that it inserts, without touching
those that are there, and counts them; removing and retaining give back the tables whose names they
took out, and these are, with the tables that are left, those that were there.  The three look-ups
agree: a name is contained if a table is found for it, and then that table is at the name's place,
which is the only one where the name is. -/
theorem ordered_by_insertion (history : List Edit) :
    let s := ({} : Selection).after history
    let log := Log.ofHistory history
    s.names.Nodup ∧ s.tables = log.standing ∧
      (∀ name t, s.find? name = some t ↔ log.last? name = some (.inserted t)) ∧
      (∀ tables, log.edit (.add tables) = log ++ (s.additions tables).map .inserted ∧
        (log.edit (.add tables)).insertions = log.insertions + (s.additions tables).length ∧
        (s.add tables).tables = s.tables ++ s.additions tables) ∧
      (∀ names, log.edit (.remove names) = log ++ (s.remove names).1.map (.takenOut ·.name) ∧
        ((s.remove names).1 ++ (s.remove names).2.tables).Perm s.tables) ∧
      (∀ keep, log.edit (.retain keep) = log ++ (s.retain keep).1.map (.takenOut ·.name) ∧
        ((s.retain keep).1 ++ (s.retain keep).2.tables).Perm s.tables) ∧
      ∀ name, s.contains name = (s.find? name).isSome ∧
        s.find? name = (s.position? name).bind (s.tables[·]?) ∧
        ∀ i, s.position? name = some i ↔ ∃ t, s.tables[i]? = some t ∧ t.name = name := by
  intro s log
  have hs : log.selection = s := Log.selection_ofHistory history
  have hdistinct : s.names.Nodup := hs ▸ Log.nodup_names_selection log
  refine ⟨hdistinct, congrArg Selection.tables hs.symm, fun name t => ?_, fun tables => ?_,
    fun names => ⟨?_, perm_remove s names⟩, fun keep => ⟨?_, perm_retain s keep⟩, fun name => ?_⟩
  · rw [← hs, ← Log.table?_eq_some_iff, Log.table?_eq_named?]
    rfl
  · have hlog := (Log.edit_add log tables).1
    rw [hs] at hlog
    exact ⟨hlog, hlog ▸ Log.insertions_append_inserted .., rfl⟩
  · rw [(Log.edit_remove log names).1, hs]
  · rw [← hs]
    rfl
  · exact ⟨(isSome_find? s name).symm, List.find?_eq_bind_findIdx?_getElem?,
      fun i => Table.position?_eq_some_iff hdistinct⟩

/-- A table that is added again with more fields takes no effect until its name was taken out; then
it stands last. -/
example :
    let orders : Table := ⟨"orders", none, []⟩
    let wider : Table := ⟨"orders", none, [⟨"customer", none⟩]⟩
    let customers : Table := ⟨"customers", none, []⟩
    (({} : Selection).after [.add [orders, wider], .add [wider, customers],
      .remove ["orders", "orders"], .add [wider]]).tables = [customers, wider] := by
  decide

end Selection
end JoinWizard
