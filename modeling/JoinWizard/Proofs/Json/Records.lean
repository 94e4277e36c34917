/-
# Every record is read back from its text

The records of the library survive their JSON text, whatever texts, lists and numbers they hold
(`written_records_are_read`).  A record is lawful because its fields are; what is left to see is
that its reader asks for the fields under the names they were written under, and takes a field that
was left out for the value that leaves it out.

| written | when it is left out |
| --- | --- |
| a schema, a type, a default schema, a fact table, a reason | it is not set |
| a list, a flag | never, though a reader would take it for empty, or for not set |

A configuration has a second text, on many lines, for a file of its own.  That the file can be
written is not the library's to say; once it was, it is read as the configuration it was written of.
-/

import JoinWizard.Proofs.Files.Tree
import JoinWizard.Proofs.Json.Codec
import JoinWizard.Proofs.Workspace
import JoinWizard.Refresh
import JoinWizard.SavedConfig.File

namespace JoinWizard

/-! ## Numbers and words -/

instance : LawfulJsonCodec Bool where
  decode_encode _ := rfl
  encode_ne_null _ := Json.noConfusion

/-- A whole number of 64 bits is in the range that its reader allows. -/
instance : LawfulJsonCodec Int64 where
  decode_encode n := by
    have hrange : Int64.minValue.toInt ≤ n.toInt ∧ n.toInt ≤ Int64.maxValue.toInt :=
      ⟨Int64.minValue_le_toInt n, Int64.toInt_le n⟩
    show (if _ then _ else _) = _
    rw [if_pos hrange, Int64.ofInt_toInt]
  encode_ne_null _ := Json.noConfusion

instance : LawfulJsonCodec Mode where
  decode_encode mode := by cases mode <;> rfl
  encode_ne_null _ := Json.noConfusion

instance : LawfulJsonCodec FetchKind where
  decode_encode kind := by cases kind <;> rfl
  encode_ne_null _ := Json.noConfusion

/-! ## Records -/

instance : LawfulJsonCodec Field where
  decode_encode f := (Json.record?_ofFields_bind (by simp) _).trans (by simp [List.lookup_cons])
  encode_ne_null _ := Json.ofFields_ne_null

instance : LawfulJsonCodec Table where
  decode_encode t := (Json.record?_ofFields_bind (by simp) _).trans (by simp [List.lookup_cons])
  encode_ne_null _ := Json.ofFields_ne_null

instance : LawfulJsonCodec Connection where
  decode_encode c := (Json.record?_ofFields_bind (by simp) _).trans (by simp [List.lookup_cons])
  encode_ne_null _ := Json.ofFields_ne_null

instance : LawfulJsonCodec SchemaInfo where
  decode_encode s := (Json.record?_ofFields_bind (by simp) _).trans (by simp [List.lookup_cons])
  encode_ne_null _ := Json.ofFields_ne_null

instance : LawfulJsonCodec SchemaDocument where
  decode_encode s := (Json.record?_ofFields_bind (by simp) _).trans (by simp [List.lookup_cons])
  encode_ne_null _ := Json.ofFields_ne_null

instance : LawfulJsonCodec SourceDocument where
  decode_encode d := (Json.record?_ofFields_bind (by simp) _).trans (by simp)
  encode_ne_null _ := Json.ofFields_ne_null

instance : LawfulJsonCodec Gates where
  decode_encode g := (Json.record?_ofFields_bind (by simp) _).trans (by simp [List.lookup_cons])
  encode_ne_null _ := Json.ofFields_ne_null

instance : LawfulJsonCodec HostError where
  decode_encode e := (Json.record?_ofFields_bind (by simp) _).trans (by simp [List.lookup_cons])
  encode_ne_null _ := Json.ofFields_ne_null

instance : LawfulJsonCodec Snapshot where
  decode_encode s := (Json.record?_ofFields_bind (by simp) _).trans (by simp [List.lookup_cons])
  encode_ne_null _ := Json.ofFields_ne_null

instance : LawfulJsonCodec DatasourceRecord where
  decode_encode r := (Json.record?_ofFields_bind (by simp) _).trans (by simp [List.lookup_cons])
  encode_ne_null _ := Json.ofFields_ne_null

instance : LawfulJsonCodec Origin where
  decode_encode o := by
    cases o with
    | unreadable reason =>
      refine (Json.record?_ofFields_bind (by simp) _).trans ?_
      simp [List.lookup_cons]
      rfl
    | _ => rfl
  encode_ne_null _ := Json.ofFields_ne_null

/-! ## Texts and files -/

/-- Whether every value of a type is read back from its text. -/
def ReadBack (α : Type) [JsonCodec α] : Prop := ∀ x : α, ofJsonText (toJsonText x) = .ok x

theorem readBack (α : Type) [JsonCodec α] [LawfulJsonCodec α] : ReadBack α := ofJsonText_toJsonText

namespace SavedConfig

variable {c : SavedConfig} {path : String} {w w' : Workspace}

/-- The text of a configuration file is read as the configuration it is of. -/
theorem ofFileText_fileText (c : SavedConfig) : ofFileText c.fileText = .ok c := by
  simp only [ofFileText, fileText, ofJsonText, Json.parse_render, decode_encode]
  rfl

/-- **A configuration file is loaded as what was saved.** -/
theorem loadFile_of_saveFile (h : Gives (c.saveFile (m := StateM Workspace) path) w () w') :
    Gives (loadFile (m := StateM Workspace) path) w' c w' := by
  obtain ⟨result, v, hwrite, hresult⟩ := gives_bind.1 h
  cases result with
  | error fault => exact absurd hresult (not_gives_throw _)
  | ok _ =>
    obtain ⟨-, rfl⟩ := gives_pure.1 hresult
    obtain ⟨files, hfiles, rfl⟩ := Workspace.run_writeText.1 (gives_lift.1 hwrite)
    have hread := FileTree.readText_of_writeText hfiles
    refine gives_bind.2 ⟨.ok c.fileText, { w with files }, gives_lift.2 (Prod.ext hread rfl), ?_⟩
    show (ofFileText c.fileText, _) = _
    rw [ofFileText_fileText]

end SavedConfig

/-- **Every record is read back from its text**, and a configuration from its file too. -/
theorem written_records_are_read :
    ReadBack Table ∧ ReadBack Join ∧ ReadBack Connection ∧ ReadBack SchemaInfo ∧
    ReadBack SourceDocument ∧ ReadBack SavedConfig ∧ ReadBack Snapshot ∧ ReadBack Mode ∧
    ReadBack Gates ∧ ReadBack HostError ∧ ReadBack Origin ∧ ReadBack DatasourceRecord ∧
    (∀ c : SavedConfig, SavedConfig.ofFileText c.fileText = .ok c) ∧
    ∀ (c : SavedConfig) (path : String) (w w' : Workspace),
      Gives (c.saveFile path) w () w' → Gives (SavedConfig.loadFile path) w' c w' := by
  refine ⟨readBack _, readBack _, readBack _, readBack _, readBack _, readBack _, readBack _,
    readBack _, readBack _, readBack _, readBack _, readBack _, ?_, ?_⟩
  · exact SavedConfig.ofFileText_fileText
  · exact fun c path w w' => SavedConfig.loadFile_of_saveFile

end JoinWizard
