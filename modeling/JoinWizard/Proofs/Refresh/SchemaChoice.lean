/-
# Which schema is selected

A list of schemas that is accepted selects one of them, by the first of four wishes that can be met
(`SchemaChoice`):

| wish | met if |
| --- | --- |
| the schema selected before | the list has it |
| the connection's default schema | the list has it |
| the first schema flagged as default | there is one |
| the first schema | there is one |

So none is selected only from an empty list.  The first wish makes the choice stable: requests and
answers, in whatever order and with whatever success, never change a selected schema that all
accepted lists have (`Exchange.selectedSchema_after`).  That it is the schema whose tables are asked
for next does not depend on when it was selected, before any list was known or from one.
-/

import JoinWizard.Proofs.Refresh.Exchange
import JoinWizard.Proofs.Session.Responses

namespace JoinWizard

/-- The names of a list of schemas. -/
def SchemaInfo.names (schemas : List SchemaInfo) : List String := schemas.map SchemaInfo.name

/-- What is selected from a list of schemas, where `selected` was selected before and `preset` is
the default of the connection. -/
inductive SchemaChoice (selected preset : Option String) (schemas : List SchemaInfo) :
    Option String → Prop
  /-- The schema selected before is listed. -/
  | kept {name : String} (hname : selected = some name)
    (hlisted : name ∈ SchemaInfo.names schemas) : SchemaChoice selected preset schemas (some name)
  /-- It is not, and the default of the connection is. -/
  | preset {name : String}
    (hselected : ∀ other, selected = some other → other ∉ SchemaInfo.names schemas)
    (hname : preset = some name) (hlisted : name ∈ SchemaInfo.names schemas) :
    SchemaChoice selected preset schemas (some name)
  /-- Neither is, and this schema is the first that is flagged. -/
  | flagged {before after : List SchemaInfo} {schema : SchemaInfo}
    (hselected : ∀ other, selected = some other → other ∉ SchemaInfo.names schemas)
    (hpreset : ∀ other, preset = some other → other ∉ SchemaInfo.names schemas)
    (hsplit : schemas = before ++ schema :: after) (hflag : schema.isDefault = true)
    (hbefore : ∀ earlier ∈ before, earlier.isDefault = false) :
    SchemaChoice selected preset schemas (some schema.name)
  /-- Neither is, none is flagged, and this schema is the first. -/
  | first {schema : SchemaInfo} {rest : List SchemaInfo}
    (hselected : ∀ other, selected = some other → other ∉ SchemaInfo.names schemas)
    (hpreset : ∀ other, preset = some other → other ∉ SchemaInfo.names schemas)
    (hsplit : schemas = schema :: rest) (hnone : ∀ listed ∈ schemas, listed.isDefault = false) :
    SchemaChoice selected preset schemas (some schema.name)
  /-- There is nothing to select. -/
  | empty (hempty : schemas = []) : SchemaChoice selected preset schemas none

namespace SchemaChoice

variable {selected preset choice : Option String} {schemas : List SchemaInfo} {name : String}

/-- Only a schema of the list is selected. -/
theorem mem_names (h : SchemaChoice selected preset schemas (some name)) :
    name ∈ SchemaInfo.names schemas := by
  cases h with
  | kept _ hlisted => exact hlisted
  | preset _ _ hlisted => exact hlisted
  | flagged _ _ hsplit => simp [hsplit, SchemaInfo.names]
  | first _ _ hsplit => simp [hsplit, SchemaInfo.names]

/-- None is selected exactly if there is none. -/
theorem eq_none_iff (h : SchemaChoice selected preset schemas choice) :
    choice = none ↔ schemas = [] := by
  refine ⟨?_, ?_⟩
  · rintro rfl
    cases h with
    | empty hempty => exact hempty
  · rintro rfl
    cases choice with
    | none => rfl
    | some name => exact absurd h.mem_names List.not_mem_nil

end SchemaChoice

namespace Refresh

variable {r : Refresh} {schemas : List SchemaInfo} {choice : Option String} {name : String}

/-- The choice, with the first two wishes filtered by what is listed. -/
theorem chooseSchema_eq (r : Refresh) (schemas : List SchemaInfo) :
    r.chooseSchema schemas =
      (r.selectedSchema.filter (· ∈ SchemaInfo.names schemas)).or
        ((r.connection.defaultSchema.filter (· ∈ SchemaInfo.names schemas)).or
          (((schemas.find? (·.isDefault)).or schemas.head?).map SchemaInfo.name)) := by
  have hknown : (fun name => schemas.any (·.name = name)) =
      fun name => decide (name ∈ SchemaInfo.names schemas) := by
    funext name
    rw [Bool.eq_iff_iff, List.any_eq_true, decide_eq_true_iff, SchemaInfo.names, List.mem_map]
    simp only [decide_eq_true_eq]
  rw [chooseSchema, hknown]

/-- A wish for a name that is not listed is not met. -/
theorem filter_listed_eq_none_iff {wish : Option String} :
    wish.filter (· ∈ SchemaInfo.names schemas) = none ↔
      ∀ name, wish = some name → name ∉ SchemaInfo.names schemas := by
  simp [Option.filter_eq_none_iff]

theorem filter_listed_eq_some_iff {wish : Option String} :
    wish.filter (· ∈ SchemaInfo.names schemas) = some name ↔
      wish = some name ∧ name ∈ SchemaInfo.names schemas := by
  rw [Option.filter_eq_some_iff, decide_eq_true_iff]

/-- What is chosen is the first wish that can be met. -/
theorem schemaChoice_chooseSchema (r : Refresh) (schemas : List SchemaInfo) :
    SchemaChoice r.selectedSchema r.connection.defaultSchema schemas (r.chooseSchema schemas) := by
  rw [chooseSchema_eq]
  cases hs : r.selectedSchema.filter (· ∈ SchemaInfo.names schemas) with
  | some name =>
    obtain ⟨hname, hlisted⟩ := filter_listed_eq_some_iff.1 hs
    exact .kept hname hlisted
  | none =>
    have hselected := filter_listed_eq_none_iff.1 hs
    rw [Option.none_or]
    cases hd : r.connection.defaultSchema.filter (· ∈ SchemaInfo.names schemas) with
    | some name =>
      obtain ⟨hname, hlisted⟩ := filter_listed_eq_some_iff.1 hd
      exact .preset hselected hname hlisted
    | none =>
      have hpreset := filter_listed_eq_none_iff.1 hd
      rw [Option.none_or]
      cases hf : schemas.find? (·.isDefault) with
      | some schema =>
        obtain ⟨hflag, before, after, hsplit, hbefore⟩ := List.find?_eq_some_iff_append.1 hf
        exact .flagged hselected hpreset hsplit hflag (by simpa using hbefore)
      | none =>
        have hnone := List.find?_eq_none.1 hf
        cases hl : schemas with
        | nil => exact .empty rfl
        | cons schema rest =>
          subst hl
          exact .first hselected hpreset rfl (by simpa using hnone)

/-- **The first wish that can be met is what is chosen,** and nothing else is. -/
theorem chooseSchema_eq_iff : r.chooseSchema schemas = choice ↔
    SchemaChoice r.selectedSchema r.connection.defaultSchema schemas choice := by
  refine ⟨fun h => h ▸ schemaChoice_chooseSchema r schemas, fun h => ?_⟩
  rw [chooseSchema_eq]
  cases h with
  | kept hname hlisted =>
    rw [filter_listed_eq_some_iff.2 ⟨hname, hlisted⟩]
    rfl
  | preset hselected hname hlisted =>
    rw [filter_listed_eq_none_iff.2 hselected, filter_listed_eq_some_iff.2 ⟨hname, hlisted⟩]
    rfl
  | flagged hselected hpreset hsplit hflag hbefore =>
    have hfind := List.find?_eq_some_iff_append.2
      ⟨hflag, _, _, hsplit, fun earlier h => by simp [hbefore earlier h]⟩
    rw [filter_listed_eq_none_iff.2 hselected, filter_listed_eq_none_iff.2 hpreset, hfind]
    rfl
  | first hselected hpreset hsplit hnone =>
    have hfind : schemas.find? (·.isDefault) = none :=
      List.find?_eq_none.2 fun listed h => by simp [hnone listed h]
    rw [filter_listed_eq_none_iff.2 hselected, filter_listed_eq_none_iff.2 hpreset, hfind, hsplit]
    rfl
  | empty hempty =>
    rw [filter_listed_eq_none_iff.2 fun _ _ => by simp [hempty, SchemaInfo.names],
      filter_listed_eq_none_iff.2 fun _ _ => by simp [hempty, SchemaInfo.names], hempty]
    rfl

/-- From schemas that there are, one is selected. -/
theorem chooseSchema_ne_none (h : schemas ≠ []) : r.chooseSchema schemas ≠ none :=
  fun hnone => h ((schemaChoice_chooseSchema r schemas).eq_none_iff.1 hnone)

/-- A selected schema that is listed stays selected. -/
theorem chooseSchema_of_mem (hselected : r.selectedSchema = some name)
    (h : name ∈ SchemaInfo.names schemas) : r.chooseSchema schemas = some name :=
  chooseSchema_eq_iff.2 (.kept hselected h)

/-- Tables change no selected schema. -/
theorem selectedSchema_acceptTables (r : Refresh) (response : TableResponse) :
    (r.acceptTables response).1.selectedSchema = r.selectedSchema := by
  unfold acceptTables
  split
  · cases response.result <;> rfl
  · rfl

/-- Schemas change no selected schema that is among them. -/
theorem selectedSchema_acceptSchemas (hselected : r.selectedSchema = some name)
    {response : SchemaResponse} (h : ∀ schemas, (r.acceptSchemas response).2 = .current schemas →
      name ∈ SchemaInfo.names schemas) :
    (r.acceptSchemas response).1.selectedSchema = some name := by
  cases hc : r.isCurrent response.generation with
  | false => rw [acceptSchemas_of_stale hc, hselected]
  | true =>
    cases hr : response.result with
    | error cause => rw [acceptSchemas_of_error hc hr, fail, hselected]
    | ok schemas =>
      rw [acceptSchemas_of_ok hc hr] at h ⊢
      exact chooseSchema_of_mem hselected (h schemas rfl)

end Refresh

namespace Exchange

variable {x : Exchange} {e : Event} {name : String}

/-- The schemas that an event brings, if it is an answer that is accepted. -/
def accepted? (x : Exchange) : Event → Option (List SchemaInfo)
  | .schemas n result =>
    match x.tickets[n]? with
    | some (.schemas t) =>
      match (x.refresh.acceptSchemas (t.respond result)).2 with
      | .current schemas => some schemas
      | _ => none
    | _ => none
  | _ => none

/-- The lists of schemas that are accepted in the course of a history. -/
def acceptedLists (x : Exchange) : List Event → List (List SchemaInfo)
  | [] => []
  | e :: later => (x.accepted? e).toList ++ (x.step e).acceptedLists later

/-- A request for schemas or an answer to a request: an event in which nobody selects anything. -/
def Event.SelectsNothing (e : Event) : Prop := e = .requestSchemas ∨ e.answers?.isSome

/-- **One event leaves a selected schema that is listed where it was.** -/
theorem selectedSchema_step (hselected : x.refresh.selectedSchema = some name)
    (he : e.SelectsNothing)
    (h : ∀ schemas, x.accepted? e = some schemas → name ∈ SchemaInfo.names schemas) :
    (x.step e).refresh.selectedSchema = some name := by
  cases e with
  | requestSchemas => exact hselected
  | schemas n result =>
    rw [step]
    split
    · next t ht =>
      refine Refresh.selectedSchema_acceptSchemas hselected fun schemas hcurrent => h schemas ?_
      simp only [accepted?, ht, hcurrent]
    · exact hselected
  | tables n result =>
    rw [step]
    split
    · exact (Refresh.selectedSchema_acceptTables ..).trans hselected
    · exact hselected
  | requestTables schema => simp [Event.SelectsNothing, Event.answers?] at he
  | selectSchema schema => simp [Event.SelectsNothing, Event.answers?] at he
  | setConnection connection => simp [Event.SelectsNothing, Event.answers?] at he

/-- **So does a history.** -/
theorem selectedSchema_after {later : List Event} (hselected : x.refresh.selectedSchema = some name)
    (hlater : ∀ e ∈ later, e.SelectsNothing)
    (h : ∀ schemas ∈ x.acceptedLists later, name ∈ SchemaInfo.names schemas) :
    (later.foldl step x).refresh.selectedSchema = some name := by
  induction later generalizing x with
  | nil => exact hselected
  | cons e later ih =>
    obtain ⟨he, hrest⟩ := List.forall_mem_cons.1 hlater
    refine ih (selectedSchema_step hselected he fun schemas hs => ?_) hrest fun schemas hs => ?_
    · exact h schemas (List.mem_append_left _ (Option.mem_toList.2 hs))
    · exact h schemas (List.mem_append_right _ hs)

/-- The lists that are accepted at first are accepted in the whole course. -/
theorem acceptedLists_append (x : Exchange) (part rest : List Event) :
    x.acceptedLists (part ++ rest) =
      x.acceptedLists part ++ (part.foldl step x).acceptedLists rest := by
  induction part generalizing x with
  | nil => rfl
  | cons e part ih =>
    rw [List.cons_append, acceptedLists, ih, ← List.append_assoc]
    rfl

/-- **The selected schema is the first wish that can be met, and it lasts.**  Whatever befell a
refresh, schemas that it accepts select none of them exactly if there are none, and else the one
selected before, the default of the connection, the first that is flagged or the first, whichever is
the first of these that the list has.  From then on a selected schema stays selected through any
requests for schemas and any answers, in any order, early or late, good or bad, as long as it is in
every list that is accepted, and it is the one whose tables a request that names none asks for. -/
theorem selected_schema_lasts (connection : Connection) (history : List Event) :
    let x := after connection history
    (∀ response schemas, x.refresh.isCurrent response.generation = true →
      response.result = .ok schemas →
      let r := (x.refresh.acceptSchemas response).1
      (x.refresh.acceptSchemas response).2 = .current schemas ∧
        (r.selectedSchema = none ↔ schemas = []) ∧
        (∀ name, r.selectedSchema = some name → name ∈ SchemaInfo.names schemas) ∧
        ∀ choice, r.selectedSchema = choice ↔
          SchemaChoice x.refresh.selectedSchema x.refresh.connection.defaultSchema schemas choice) ∧
    ∀ name later, x.refresh.selectedSchema = some name → (∀ e ∈ later, e.SelectsNothing) →
      (∀ schemas ∈ x.acceptedLists later, name ∈ SchemaInfo.names schemas) →
      ∀ part rest, later = part ++ rest →
        let r := (part.foldl step x).refresh
        r.selectedSchema = some name ∧ (r.requestTables none).2.schema = name ∧
          (r.requestTables none).1.selectedSchema = some name := by
  intro x
  refine ⟨fun response schemas hcurrent hok => ?_, ?_⟩
  · rw [Refresh.acceptSchemas_of_ok hcurrent hok]
    have hchoice := Refresh.schemaChoice_chooseSchema x.refresh schemas
    refine ⟨rfl, hchoice.eq_none_iff, fun name hname => ?_, fun _ => Refresh.chooseSchema_eq_iff⟩
    have hname : x.refresh.chooseSchema schemas = some name := hname
    exact (hname ▸ hchoice).mem_names
  · rintro name later hselected hlater hlisted part rest rfl r
    rw [acceptedLists_append] at hlisted
    have hr : r.selectedSchema = some name :=
      selectedSchema_after hselected (fun e he => hlater e (List.mem_append_left _ he))
        fun schemas hs => hlisted schemas (List.mem_append_left _ hs)
    have hasked : (none : Option String).or (r.selectedSchema.or r.connection.defaultSchema) =
        some name := by
      rw [hr]
      rfl
    exact ⟨hr, congrArg (·.getD "") hasked, hasked⟩

/-- Tables of the customers are asked for before any schemas are known, and then schemas. -/
def earlyChoice : List Event := [.requestTables (some "customers"), .requestSchemas]

/-- The schemas come, first in one order, then in another, with one failure in between and an old
answer after it. -/
def manyAnswers : List Event := [
  .schemas 1 (.ok [⟨"sales", true⟩, ⟨"customers", false⟩]),
  .requestSchemas,
  .schemas 2 (.error (.connectionFailed "timeout")),
  .requestSchemas,
  .schemas 2 (.ok [⟨"sales", false⟩]),
  .schemas 3 (.ok [⟨"customers", false⟩, ⟨"stock", true⟩])]

/-- The early choice stays, against the default of the connection and against the flags. -/
theorem selected_schema_lasts_customers :
    let x := after ⟨"local", "static", "", some "sales"⟩ earlyChoice
    let response : SchemaResponse := ⟨2, "local", .ok [⟨"sales", true⟩, ⟨"customers", false⟩]⟩
    let r := (manyAnswers.foldl step x).refresh
    x.refresh.isCurrent response.generation = true ∧ x.refresh.schemas = [] ∧
      (x.refresh.acceptSchemas response).1.selectedSchema = some "customers" ∧
      (∀ e ∈ manyAnswers, e.SelectsNothing) ∧
      x.acceptedLists manyAnswers = [[⟨"sales", true⟩, ⟨"customers", false⟩],
        [⟨"customers", false⟩, ⟨"stock", true⟩]] ∧
      r.selectedSchema = some "customers" ∧ (r.requestTables none).2.schema = "customers" := by
  intro x response r
  obtain ⟨hchoice, hlasts⟩ :=
    selected_schema_lasts ⟨"local", "static", "", some "sales"⟩ earlyChoice
  have hcurrent : x.refresh.isCurrent response.generation = true := rfl
  have hnothing : ∀ e ∈ manyAnswers, e.SelectsNothing := by
    simp [manyAnswers, Event.SelectsNothing, Event.answers?]
  have hlists : x.acceptedLists manyAnswers = [[⟨"sales", true⟩, ⟨"customers", false⟩],
      [⟨"customers", false⟩, ⟨"stock", true⟩]] := by decide
  have hlisted : ∀ schemas ∈ x.acceptedLists manyAnswers,
      "customers" ∈ SchemaInfo.names schemas := by
    rw [hlists]
    decide
  obtain ⟨hselected, hasked, -⟩ :=
    hlasts "customers" manyAnswers rfl hnothing hlisted manyAnswers [] (List.append_nil _).symm
  refine ⟨hcurrent, rfl, ?_, hnothing, hlists, hselected, hasked⟩
  exact ((hchoice response _ hcurrent rfl).2.2.2 _).2 (.kept rfl (by decide))

end Exchange
end JoinWizard
