/-
# Datasource records

A stored datasource is a configuration by name with the context it was made in, a set of
properties and the time of its last change.  Two of the properties mark a datasource that was made
by the wizard; `Origin` is what a store says about who made one.
-/

import JoinWizard.NameMap
import JoinWizard.Snapshot

namespace JoinWizard

/-- A stored datasource. -/
structure DatasourceRecord where
  name : String
  context : String
  config : SavedConfig
  properties : NameMap String := .empty
  /-- Seconds since the beginning of 1970. -/
  updatedAt : Int64
  deriving DecidableEq

namespace DatasourceRecord

/-- The property that marks a datasource made by the wizard. -/
def wizardMark : String := "WIZARD_GENERATED_SCHEMA"

/-- An older spelling of that property. -/
def olderWizardMark : String := "AGILE_BI_GENERATED_SCHEMA"

/-- The property that names the mode of a committed datasource. -/
def modeProperty : String := "MODELING_MODE"

/-- Whether the record carries a mark of the wizard. -/
def isWizardGenerated (r : DatasourceRecord) : Bool :=
  r.properties.contains wizardMark || r.properties.contains olderWizardMark

/-- The record of a committed snapshot. -/
def ofSnapshot (s : Snapshot) (now : Int64) : DatasourceRecord where
  name := s.name
  context := s.context
  config := s.toConfig
  properties := .ofList [(wizardMark, "true"), (modeProperty, s.mode.text)]
  updatedAt := now

instance : JsonCodec DatasourceRecord where
  encode r := .ofFields [
    ("name", some (encode r.name)),
    ("context", some (encode r.context)),
    ("config", some (encode r.config)),
    ("properties", some (encode r.properties)),
    ("updated_at", some (encode r.updatedAt))]
  decode v := do
    let field ← v.record? ["name", "context", "config", "properties", "updated_at"]
    return {
      name := ← JsonCodec.required (field "name")
      context := ← JsonCodec.required (field "context")
      config := ← JsonCodec.required (field "config")
      properties := ← JsonCodec.required (field "properties")
      updatedAt := ← JsonCodec.required (field "updated_at") }

end DatasourceRecord

/-- Who made a datasource. -/
inductive Origin where
  /-- There is one, and the wizard did not make it. -/
  | metadata
  /-- There is one, and the wizard made it. -/
  | wizardGenerated
  /-- There is none of that name. -/
  | absent
  /-- There is one, and its record cannot be read. -/
  | unreadable (reason : String)
  deriving DecidableEq, Repr

namespace Origin

/-- The text of an origin. -/
def text : Origin → String
  | metadata => "metadata"
  | wizardGenerated => "wizard-generated"
  | absent => "absent"
  | unreadable reason => "unreadable: " ++ reason

/-- The word an origin is written with. -/
def tag : Origin → String
  | metadata => "metadata"
  | wizardGenerated => "wizard_generated"
  | absent => "absent"
  | unreadable _ => "unreadable"

/-- The origin of a word and of the reason beside it, which only an unreadable record has. -/
def ofTag? (tag : String) (reason : Option Json) : Option Origin :=
  match tag, reason with
  | "unreadable", some r => (decode r).map unreadable
  | "metadata", none | "metadata", some .null => some metadata
  | "wizard_generated", none | "wizard_generated", some .null => some wizardGenerated
  | "absent", none | "absent", some .null => some absent
  | _, _ => none

/-- An origin is written as a word under `origin` and, if there is one, a reason under `reason`;
or read from an array of the two, a string and a reason or `null`. -/
instance : JsonCodec Origin where
  encode o := .ofFields [
    ("origin", some (.text o.tag)),
    ("reason", match o with
      | unreadable reason => some (encode reason)
      | _ => none)]
  decode
    | .array [.string tag, reason] => do ofTag? (← tag) (some reason)
    | .array _ => none
    | v => do
      let field ← v.record? ["origin", "reason"]
      ofTag? (← (← field "origin").case?) (field "reason")

end Origin

end JoinWizard
