/-
# What settings depend on

A settings file is read and not changed (`keepsState_load`).  Connections and the path of the store
are expanded out of the environment: what comes of it is the same in all workspaces of one
environment, whatever files are in them (`readsEnvironment_connection`,
`readsEnvironment_storePath`).
-/

import JoinWizard.Proofs.Source.Serves
import JoinWizard.Proofs.Workspace
import JoinWizard.Settings

namespace JoinWizard

section

variable {ε ε' α β : Type} {x : ExceptT ε (StateM Workspace) α}

/-- Whether a program changes nothing and comes to the same in all workspaces of one environment. -/
def ReadsEnvironment (x : ExceptT ε (StateM Workspace) α) : Prop :=
  ∀ w v : Workspace, v.environment = w.environment → x.run.run v = ((x.run.run w).1, v)

namespace ReadsEnvironment

theorem pure (a : α) : ReadsEnvironment (Pure.pure a : ExceptT ε (StateM Workspace) α) :=
  fun _ _ _ => rfl

theorem throw (e : ε) : ReadsEnvironment (MonadExcept.throw e : ExceptT ε (StateM Workspace) α) :=
  fun _ _ _ => rfl

theorem bind {f : α → ExceptT ε (StateM Workspace) β} (hx : ReadsEnvironment x)
    (hf : ∀ a, ReadsEnvironment (f a)) : ReadsEnvironment (x >>= f) := by
  intro w v h
  rw [run_bind (w := v), run_bind (w := w), hx w v h, hx w w rfl]
  cases (x.run.run w).1 with
  | ok a => exact hf a w v h
  | error e => rfl

theorem adapt (hx : ReadsEnvironment x) (describe : ε → ε') :
    ReadsEnvironment (x.adapt describe) := by
  intro w v h
  have hadapt (u : Workspace) : (x.adapt describe).run.run u =
      ((x.run.run u).1.mapError describe, (x.run.run u).2) := rfl
  rw [hadapt v, hadapt w, hx w v h]

theorem mapM {f : α → ExceptT ε (StateM Workspace) β} (hf : ∀ a, ReadsEnvironment (f a))
    (xs : List α) : ReadsEnvironment (xs.mapM f) := by
  induction xs with
  | nil => exact .pure []
  | cons a xs ih =>
    rw [List.mapM_cons]
    exact (hf a).bind fun b => ih.bind fun bs => .pure (b :: bs)

/-- What a program that reads the environment gives, it gives in every workspace of it. -/
theorem gives {w v : Workspace} {a : α} (hx : ReadsEnvironment x)
    (h : v.environment = w.environment) (ha : (x.run.run w).1 = .ok a) : Gives x v a v := by
  rw [Gives, hx w v h, ha]

end ReadsEnvironment
end

/-- The value of a variable is a matter of the environment. -/
theorem readsEnvironment_getVariable {ε : Type} (name : String) :
    ReadsEnvironment (Machine.getVariable name : ExceptT ε (StateM Workspace) _) := by
  intro w v h
  show (Except.ok (v.getVariable name), v) = (Except.ok (w.getVariable name), v)
  rw [Workspace.getVariable, Workspace.getVariable, h]

namespace Settings

theorem readsEnvironment_expand (text : String) :
    ReadsEnvironment (expand (m := StateM Workspace) text) := by
  have htoken (t : Reference.Token) :
      ReadsEnvironment (t.expand (Machine.getVariable (m := StateM Workspace))) := by
    unfold Reference.Token.expand
    split
    · exact .pure _
    · refine .bind (readsEnvironment_getVariable _) fun value => ?_
      split
      · exact .pure _
      · exact .throw _
  refine ReadsEnvironment.adapt ?_ _
  unfold Reference.expand
  dsimp only
  refine .bind (.mapM htoken _) fun parts => ?_
  split
  · exact .pure _
  · exact .bind (.throw _) fun _ => .pure _

/-- **A connection depends on the settings and the environment alone.** -/
theorem readsEnvironment_connection (s : Settings) (name : String) :
    ReadsEnvironment (s.connection (m := StateM Workspace) name) := by
  unfold connection
  split
  · exact .throw _
  · exact .bind (readsEnvironment_expand _) fun _ => .pure _

/-- **So does the path of the store.** -/
theorem readsEnvironment_storePath (s : Settings) :
    ReadsEnvironment (s.storePath (m := StateM Workspace)) := by
  unfold storePath
  split
  · exact .bind (readsEnvironment_expand _) fun _ => .pure _
  · exact .pure _

end Settings

/-- And so does the path where a store is usually. -/
theorem readsEnvironment_defaultStorePath :
    ReadsEnvironment (ExceptT.mk (Machine.defaultStorePath (m := StateM Workspace))) := by
  intro w v h
  have hhome (u : Workspace) : (Machine.home? (m := StateM Workspace)).run u =
      ((u.getVariable "HOME").filter (· ≠ ""), u) := rfl
  have hvariable : v.getVariable "HOME" = w.getVariable "HOME" := by
    rw [Workspace.getVariable, Workspace.getVariable, h]
  show (Machine.defaultStorePath (m := StateM Workspace)).run v =
    (((Machine.defaultStorePath (m := StateM Workspace)).run w).1, v)
  unfold Machine.defaultStorePath
  rw [StateT.run_bind, StateT.run_bind, hhome, hhome, hvariable]
  cases (w.getVariable "HOME").filter (· ≠ "") <;> rfl

/-! ## Settings files -/

namespace Settings

/-- Reading a settings file changes nothing. -/
theorem keepsState_ofFile (path : String) :
    KeepsState (ofFile (m := StateM Workspace) path) := by
  unfold ofFile
  refine .bind (keepsState_pathExists _) fun found => ?_
  split
  · refine .bind (keepsState_readText _) fun text => ?_
    split
    · exact .throw _
    · split
      · exact fun _ => rfl
      · exact .throw _
  · exact .throw_bind _ _

theorem keepsState_findM? {α ε σ : Type} {p : α → ExceptT ε (StateM σ) Bool}
    (hp : ∀ a, KeepsState (p a)) (xs : List α) : KeepsState (xs.findM? p) := by
  induction xs with
  | nil => exact fun _ => rfl
  | cons a xs ih =>
    rw [List.findM?]
    refine .bind (hp a) fun found => ?_
    split
    · exact fun _ => rfl
    · exact ih

theorem keepsState_usualPaths {ε : Type} :
    KeepsState (usualPaths : ExceptT ε (StateM Workspace) (List String)) := by
  have hhome : KeepsState (Machine.home? : ExceptT ε (StateM Workspace) _) := fun _ => rfl
  have hdirectory : KeepsState (Machine.settingsDirectory? : ExceptT ε (StateM Workspace) _) := by
    refine .bind (fun _ => rfl) fun set => ?_
    split
    · exact fun _ => rfl
    · exact hhome.bind fun _ _ => rfl
  refine hdirectory.bind fun directory => ?_
  split <;> exact fun _ => rfl

/-- Looking for settings changes nothing. -/
theorem keepsState_load : KeepsState (load (m := StateM Workspace)) := by
  unfold load
  refine .bind (fun _ => rfl) fun named => ?_
  split
  · exact keepsState_ofFile _
  · refine .bind ?_ fun paths =>
      .bind (keepsState_findM? keepsState_pathExists paths) fun found => ?_
    · exact keepsState_usualPaths
    · split
      · exact keepsState_ofFile _
      · exact fun _ => rfl

end Settings
end JoinWizard
