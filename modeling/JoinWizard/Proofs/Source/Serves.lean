/-
# Documents and the providers that serve them

A source document reaches a session by way of a provider: one that holds it, or one that reads it
from a file at every question.  What either says is what the document says, as often as it is asked
(`Serves.schemas`, `Serves.tables`), for the one that holds it does nothing but count, and reading a
file leaves the machine as it is.

The empty name and the name of the default schema ask for the same tables (`tablesIn_empty`,
`tablesIn_name`), provided the name stands for no other schema.
-/

import JoinWizard.Source.CatalogFile
import JoinWizard.Workspace
import Mathlib.Data.List.Nodup

namespace JoinWizard

/-! ## What a document says -/

/-- The tables of a schema as the source gives them out. -/
def SchemaDocument.tagged (s : SchemaDocument) : List Table := s.tables.map (·.inSchema s.name)

/-- The first table says of its schema what the document says, or else that it is this one. -/
theorem SchemaDocument.head?_tagged (s : SchemaDocument) :
    s.tagged.head?.bind Table.schema = s.tables.head?.map fun t => t.schema.getD s.name := by
  rw [tagged, List.head?_map]
  cases s.tables.head? <;> rfl

namespace SourceDocument

variable {d : SourceDocument} {s : SchemaDocument}

theorem exists_default (h : d.schemas ≠ []) : ∃ s, d.default? = some s := by
  obtain ⟨first, rest, hd⟩ := List.exists_cons_of_ne_nil h
  refine Option.isSome_iff_exists.1 ?_
  rw [default?, Option.isSome_or, hd, List.head?_cons]
  exact Bool.or_true _

theorem mem_of_default (h : d.default? = some s) : s ∈ d.schemas := by
  rcases Option.or_eq_some_iff.1 h with h | ⟨-, h⟩
  · exact List.mem_of_find?_eq_some h
  · exact List.mem_of_head? h

theorem tablesIn_empty (h : d.default? = some s) : d.tablesIn "" = .ok s.tagged := by
  rw [tablesIn, schema?, if_pos rfl, h]
  rfl

/-- **A schema of a name of its own is found by that name.** -/
theorem tablesIn_name (hname : s.name ≠ "") (hdistinct : (d.schemas.map SchemaDocument.name).Nodup)
    (hs : s ∈ d.schemas) : d.tablesIn s.name = .ok s.tagged := by
  obtain ⟨before, after, hsplit⟩ := List.append_of_mem hs
  have hnew : s.name ∉ before.map SchemaDocument.name := by
    rw [hsplit, List.map_append, List.map_cons] at hdistinct
    exact fun h => (List.nodup_append.1 hdistinct).2.2 _ h _ (List.mem_cons_self ..) rfl
  have hfind : d.schemas.find? (·.name = s.name) = some s := by
    refine List.find?_eq_some_iff_append.2 ⟨decide_eq_true rfl, before, after, hsplit, ?_⟩
    intro u hu
    have hne : u.name ≠ s.name := fun he => hnew (he ▸ List.mem_map_of_mem hu)
    simpa using hne
  rw [tablesIn, schema?, if_neg hname, hfind]
  rfl

end SourceDocument

/-! ## What a provider says -/

section KeepsState

variable {σ ε α β : Type}

/-- Whether a computation that may fail leaves its state as it is. -/
def KeepsState (x : ExceptT ε (StateM σ) α) : Prop := ∀ w, (x.run.run w).2 = w

namespace KeepsState

theorem bind {x : ExceptT ε (StateM σ) α} {f : α → ExceptT ε (StateM σ) β} (hx : KeepsState x)
    (hf : ∀ a, KeepsState (f a)) : KeepsState (x >>= f) := by
  intro w
  show ((ExceptT.bindCont f (x.run.run w).1).run (x.run.run w).2).2 = w
  rw [hx w]
  cases (x.run.run w).1 with
  | ok a => exact hf a w
  | error e => rfl

theorem throw (e : ε) : KeepsState (MonadExcept.throw e : ExceptT ε (StateM σ) α) := fun _ => rfl

theorem throw_bind (e : ε) (f : α → ExceptT ε (StateM σ) β) :
    KeepsState (MonadExcept.throw e >>= f) := fun _ => rfl

theorem adapt {ε' : Type} {x : ExceptT ε (StateM σ) α} (hx : KeepsState x) (describe : ε → ε') :
    KeepsState (x.adapt describe) := hx

end KeepsState
end KeepsState

theorem keepsState_pathExists {ε : Type} (path : String) :
    KeepsState (Machine.pathExists path : ExceptT ε (StateM Workspace) Bool) := fun _ => rfl

theorem keepsState_readText {ε : Type} (path : String) :
    KeepsState (Machine.readText path : ExceptT ε (StateM Workspace) (Except FileFault String)) :=
  fun _ => rfl

/-- Reading a catalog file changes nothing. -/
theorem CatalogFile.keepsState_document (c : Connection) :
    KeepsState (document (m := StateM Workspace) c) := by
  unfold document
  split
  · exact .throw_bind _ _
  · refine .bind (keepsState_pathExists _) fun found => ?_
    split
    · refine .bind (keepsState_readText _) fun text => ?_
      split
      · exact .throw _
      · split
        · exact .throw _
        · exact fun _ => rfl
    · exact .throw_bind _ _

/-- The providers of a document for a connection, with the states they provide it in: a source that
holds it and has no failure laid into it, and a file that holds it where the connection leads. -/
inductive Serves (c : Connection) (d : SourceDocument) :
    {σ : Type} → Provider (StateM σ) → σ → Prop
  | held (source : FixedSource) (hd : source.document = d) (hschemas : source.schemaFailure = none)
    (htables : source.tableFailures = []) : Serves c d FixedSource.provider source
  | file (w : Workspace)
    (hd : ((CatalogFile.document (m := StateM Workspace) c).run.run w).1 = .ok d) :
    Serves c d CatalogFile.provider w

namespace Serves

variable {c : Connection} {d : SourceDocument} {σ : Type} {p : Provider (StateM σ)} {w : σ}

/-- Asked for the schemas, it says what the document says, and goes on to serve it. -/
theorem schemas (h : Serves c d p w) :
    ((p.schemas c).run w).1 = .ok d.infos ∧ Serves c d p ((p.schemas c).run w).2 := by
  cases h with
  | held source hd hschemas htables =>
    refine ⟨?_, .held _ hd hschemas htables⟩
    show source.listSchemas = _
    rw [FixedSource.listSchemas, hschemas, hd]
  | file w hd =>
    constructor
    · show (((CatalogFile.document (m := StateM Workspace) c).run.run w).1.map _) = _
      rw [hd]
      rfl
    · have hstate := CatalogFile.keepsState_document c w
      show Serves c d CatalogFile.provider
        ((CatalogFile.document (m := StateM Workspace) c).run.run w).2
      rw [hstate]
      exact .file w hd

/-- Asked for tables, it says what the document says. -/
theorem tables (h : Serves c d p w) (schema : String) :
    ((p.tables c schema).run w).1 = d.tablesIn schema := by
  cases h with
  | held source hd hschemas htables =>
    show source.listTables schema = _
    rw [FixedSource.listTables, htables, hd]
    rfl
  | file w hd =>
    show (((CatalogFile.document (m := StateM Workspace) c).run.run w).1.bind _) = _
    rw [hd]
    rfl

end Serves

end JoinWizard
