/-
# Every schema that is listed can be asked for

A document is asked for its schemas, and then for the tables of one of them by name.  The name is
taken from the list, so the two answers have to agree:

| asked for the tables of | given out |
| --- | --- |
| the empty name | those of the first schema flagged as default, else of the first |
| another name | those of the first schema of that name |

Only a name that no schema has is refused, and the empty one only if there is no schema
(`tablesIn_eq_error_iff`).  So a listed name is never refused, whatever it is.  That it brings the
tables of the schema it was listed for takes more: were two schemas of one name, it would bring
those of the first, and were the name empty, those of the default schema.  With names that are
distinct and not empty each schema is found under its own (`tablesIn_name`).
-/

import JoinWizard.Proofs.Source.Serves

namespace JoinWizard

/-- How a table of a schema is given out: with its own name and fields, and with its own schema if
it has one, else with the schema it is given out for. -/
structure Table.GivenOutFor (schema : String) (own given : Table) : Prop where
  name : given.name = own.name
  fields : given.fields = own.fields
  kept : ∀ other, own.schema = some other → given.schema = some other
  filled : own.schema = none → given.schema = some schema

theorem Table.givenOutFor_inSchema (schema : String) (t : Table) :
    Table.GivenOutFor schema t (t.inSchema schema) where
  name := rfl
  fields := rfl
  kept other h := by rw [inSchema, h, Option.getD_some]
  filled h := by rw [inSchema, h, Option.getD_none]

namespace SourceDocument

variable {d : SourceDocument} {s : SchemaDocument} {name : String} {fault : SourceError}

/-- Asked for the name, the document gives out the tables of the schema, in order. -/
def GivesOut (d : SourceDocument) (name : String) (s : SchemaDocument) : Prop :=
  ∃ tables, d.tablesIn name = .ok tables ∧
    List.Forall₂ (Table.GivenOutFor s.name) s.tables tables

/-- A schema is listed as it is, and the name it is listed under brings its tables. -/
structure Lists (d : SourceDocument) (s : SchemaDocument) (info : SchemaInfo) : Prop where
  name : info.name = s.name
  isDefault : info.isDefault = s.isDefault
  tables : d.GivesOut info.name s

/-- Which schema is meant where none is named. -/
inductive IsDefault (d : SourceDocument) (s : SchemaDocument) : Prop
  /-- It is the first that is flagged. -/
  | flagged (before after : List SchemaDocument) (hsplit : d.schemas = before ++ s :: after)
    (hflag : s.isDefault = true) (hbefore : ∀ earlier ∈ before, earlier.isDefault = false)
  /-- None is flagged, and it is the first. -/
  | first (rest : List SchemaDocument) (hsplit : d.schemas = s :: rest)
    (hnone : ∀ listed ∈ d.schemas, listed.isDefault = false)

theorem default?_eq_some_iff : d.default? = some s ↔ d.IsDefault s := by
  rw [default?, Option.or_eq_some_iff]
  constructor
  · rintro (h | ⟨hnone, h⟩)
    · obtain ⟨hflag, before, after, hsplit, hbefore⟩ := List.find?_eq_some_iff_append.1 h
      exact .flagged before after hsplit hflag (by simpa using hbefore)
    · obtain ⟨rest, hsplit⟩ := List.head?_eq_some_iff.1 h
      exact .first rest hsplit (by simpa using List.find?_eq_none.1 hnone)
  · rintro (⟨before, after, hsplit, hflag, hbefore⟩ | ⟨rest, hsplit, hnone⟩)
    · refine .inl (List.find?_eq_some_iff_append.2 ⟨hflag, before, after, hsplit, ?_⟩)
      simpa using hbefore
    · refine .inr ⟨List.find?_eq_none.2 (by simpa using hnone), ?_⟩
      rw [hsplit, List.head?_cons]

theorem default?_eq_none_iff : d.default? = none ↔ d.schemas = [] := by
  rw [default?, Option.or_eq_none_iff, List.head?_eq_none_iff, and_iff_right_iff_imp]
  intro h
  rw [h, List.find?_nil]

theorem schema?_eq_none_iff : d.schema? name = none ↔
    (name ≠ "" ∧ ∀ s ∈ d.schemas, s.name ≠ name) ∨ d.schemas = [] := by
  by_cases hname : name = ""
  · rw [schema?, if_pos hname, default?_eq_none_iff]
    simp [hname]
  · rw [schema?, if_neg hname, List.find?_eq_none]
    simp only [decide_eq_true_eq, ne_eq, hname, not_false_eq_true, true_and]
    exact ⟨.inl, fun h => h.elim id fun hnone s hs => absurd (hnone ▸ hs) List.not_mem_nil⟩

/-- **Only a name that no schema has is refused,** and the empty one only if there is no schema. -/
theorem tablesIn_eq_error_iff : d.tablesIn name = .error fault ↔
    fault = .schemaNotFound name ∧
      ((name ≠ "" ∧ ∀ s ∈ d.schemas, s.name ≠ name) ∨ d.schemas = []) := by
  rw [← schema?_eq_none_iff, tablesIn]
  cases d.schema? name with
  | none => simp [eq_comm]
  | some s => simp

/-- **A listed name is not refused.** -/
theorem exists_tablesIn_of_listed {info : SchemaInfo} (h : info ∈ d.infos) :
    ∃ tables, d.tablesIn info.name = .ok tables := by
  obtain ⟨s, hs, rfl⟩ := List.mem_map.1 h
  cases hgiven : d.tablesIn s.info.name with
  | ok tables => exact ⟨tables, rfl⟩
  | error fault =>
    obtain ⟨-, ⟨-, hnone⟩ | hempty⟩ := tablesIn_eq_error_iff.1 hgiven
    · exact absurd rfl (hnone s hs)
    · exact absurd (hempty ▸ hs) List.not_mem_nil

/-- What arrives as a schema's tables are its tables as they are given out. -/
theorem givesOut_of_tagged (h : d.tablesIn name = .ok s.tagged) : d.GivesOut name s :=
  ⟨s.tagged, h, List.forall₂_map_right_iff.2
    (List.forall₂_same.2 fun t _ => Table.givenOutFor_inSchema s.name t)⟩

/-- **What is listed can be asked for.**  A document refuses just the names that no schema has, and
the empty one if there is no schema, so it refuses no name that it lists.  If the names are distinct
and not empty, each listed name brings the tables of the schema it was listed for, and the empty
name those of the default schema, as if that were named.  All this is said by any provider that
serves the document, asked for the schemas and then for tables. -/
theorem listing_matches_tables (d : SourceDocument) :
    (∀ name fault, d.tablesIn name = .error fault ↔ fault = .schemaNotFound name ∧
      ((name ≠ "" ∧ ∀ s ∈ d.schemas, s.name ≠ name) ∨ d.schemas = [])) ∧
    (∀ info ∈ d.infos, ∃ tables, d.tablesIn info.name = .ok tables) ∧
    ((∀ s ∈ d.schemas, s.name ≠ "") → (d.schemas.map SchemaDocument.name).Nodup →
      List.Forall₂ d.Lists d.schemas d.infos ∧
      (d.schemas ≠ [] → ∃ s, d.IsDefault s) ∧
      ∀ s, d.IsDefault s → d.tablesIn "" = d.tablesIn s.name) ∧
    ∀ (σ : Type) (p : Provider (StateM σ)) (w : σ) (c : Connection), Serves c d p w →
      ((p.schemas c).run w).1 = .ok d.infos ∧
      ∀ name, ((p.tables c name).run ((p.schemas c).run w).2).1 = d.tablesIn name := by
  refine ⟨fun name fault => tablesIn_eq_error_iff, fun info => exists_tablesIn_of_listed,
    fun hnames hdistinct => ⟨?listed, ?found, ?default⟩, fun σ p w c h => ?served⟩
  case listed =>
    refine List.forall₂_map_right_iff.2 (List.forall₂_same.2 fun s hs => ⟨rfl, rfl, ?_⟩)
    exact givesOut_of_tagged (tablesIn_name (hnames s hs) hdistinct hs)
  case found =>
    intro hschemas
    obtain ⟨s, hs⟩ := exists_default hschemas
    exact ⟨s, default?_eq_some_iff.1 hs⟩
  case default =>
    intro s hs
    have hdefault := default?_eq_some_iff.2 hs
    have hmem := mem_of_default hdefault
    rw [tablesIn_empty hdefault, tablesIn_name (hnames s hmem) hdistinct hmem]
  case served => exact ⟨h.schemas.1, h.schemas.2.tables⟩

/-- A document with two schemas flagged as default and a table that claims another schema. -/
def warehouse : SourceDocument where
  schemas := [
    { name := "staging", tables := [{ name := "raw_orders" }] },
    { name := "sales", isDefault := true,
      tables := [{ name := "orders" }, { name := "customers", schema := some "crm" }] },
    { name := "archive", isDefault := true }]

/-- Its schemas are found under their names, and the first one flagged under the empty name.  The
schema that a table claims is none of them, and a source that holds the document refuses it. -/
theorem listing_matches_tables_warehouse :
    let c : Connection := ⟨"local", "static", "", none⟩
    let source : FixedSource := { document := warehouse }
    let listed := (FixedSource.provider.schemas c).run source
    (∀ s ∈ warehouse.schemas, s.name ≠ "") ∧
    (warehouse.schemas.map SchemaDocument.name).Nodup ∧
    List.Forall₂ warehouse.Lists warehouse.schemas
      [⟨"staging", false⟩, ⟨"sales", true⟩, ⟨"archive", true⟩] ∧
    warehouse.tablesIn "" = warehouse.tablesIn "sales" ∧
    ((FixedSource.provider.tables c "crm").run listed.2).1 = .error (.schemaNotFound "crm") := by
  intro c source listed
  have hnames : ∀ s ∈ warehouse.schemas, s.name ≠ "" := by decide
  have hdistinct : (warehouse.schemas.map SchemaDocument.name).Nodup := by decide
  obtain ⟨hrefused, -, hagree, hserved⟩ := listing_matches_tables warehouse
  obtain ⟨hlisted, -, hdefault⟩ := hagree hnames hdistinct
  have hcrm : warehouse.tablesIn "crm" = .error (.schemaNotFound "crm") :=
    (hrefused "crm" _).2 ⟨rfl, .inl (by decide)⟩
  have hsource : Serves c warehouse FixedSource.provider source := .held source rfl rfl rfl
  exact ⟨hnames, hdistinct, hlisted, hdefault _ (.flagged [_] [_] rfl rfl (by decide)),
    ((hserved _ _ source c hsource).2 "crm").trans hcrm⟩

end SourceDocument
end JoinWizard
