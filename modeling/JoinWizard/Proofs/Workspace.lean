/-
# Programs on a workspace

A program that may fail *gives* a result on a state if it comes to its end there, and leaves a state
behind (`Gives`).  Of two programs in a row, the second gives its result on the state that the first
one left (`gives_bind`); so a run that has come to its end is taken apart step by step, and another
one is put together from what its steps give.
-/

import JoinWizard.Workspace

namespace JoinWizard

section

variable {σ ε α β : Type} {x : ExceptT ε (StateM σ) α} {f : α → ExceptT ε (StateM σ) β}
  {w w' : σ} {a : α} {b : β}

/-- Whether a computation that may fail gives a result on a state, and the state it leaves. -/
def Gives (x : ExceptT ε (StateM σ) α) (w : σ) (a : α) (w' : σ) : Prop := x.run.run w = (.ok a, w')

/-- A program after one that may fail goes on with its result, or fails with it. -/
theorem run_bind :
    (x >>= f).run.run w = (ExceptT.bindCont f (x.run.run w).1).run (x.run.run w).2 := rfl

theorem run_bind_ok (h : x.run.run w = (.ok a, w')) :
    (x >>= f).run.run w = (f a).run.run w' := by
  rw [run_bind, h]
  rfl

theorem run_bind_error {e : ε} (h : x.run.run w = (.error e, w')) :
    (x >>= f).run.run w = (.error e, w') := by
  rw [run_bind, h]
  rfl

/-- **Two programs in a row give what the second gives after the first.** -/
theorem gives_bind : Gives (x >>= f) w b w' ↔ ∃ a v, Gives x w a v ∧ Gives (f a) v b w' := by
  rw [Gives, run_bind]
  constructor
  · intro h
    cases hx : (x.run.run w).1 with
    | error e => rw [hx] at h; cases h
    | ok a =>
      rw [hx] at h
      exact ⟨a, _, Prod.ext hx rfl, h⟩
  · rintro ⟨a, v, hx, hf⟩
    rw [show x.run.run w = (.ok a, v) from hx]
    exact hf

/-- A computation has one result and leaves one state. -/
theorem Gives.unique {a' : α} {v : σ} (h : Gives x w a w') (h' : Gives x w a' v) :
    a = a' ∧ w' = v := by
  obtain ⟨ha, hw⟩ := Prod.mk.inj (Eq.trans (Eq.symm h) h')
  exact ⟨Except.ok.inj ha, hw⟩

/-- After a program whose result is known, the next one goes on with it. -/
theorem Gives.bind_iff {v : σ} (h : Gives x w a v) :
    Gives (x >>= f) w b w' ↔ Gives (f a) v b w' := by
  rw [gives_bind]
  constructor
  · rintro ⟨a', v', hx, hf⟩
    obtain ⟨rfl, rfl⟩ := h.unique hx
    exact hf
  · exact fun hf => ⟨a, v, h, hf⟩

theorem gives_pure {a b : α} : Gives (pure a : ExceptT ε (StateM σ) α) w b w' ↔ a = b ∧ w = w' := by
  constructor
  · rintro ⟨⟩
    exact ⟨rfl, rfl⟩
  · rintro ⟨rfl, rfl⟩
    rfl

theorem not_gives_throw (e : ε) : ¬Gives (throw e : ExceptT ε (StateM σ) α) w a w' := nofun

/-- What cannot fail gives what it gives. -/
theorem gives_lift {y : StateM σ α} :
    Gives (ExceptT.lift y : ExceptT ε (StateM σ) α) w a w' ↔ y.run w = (a, w') := by
  have hlift : (ExceptT.lift y : ExceptT ε (StateM σ) α).run.run w =
      (.ok (y.run w).1, (y.run w).2) := rfl
  rw [Gives, hlift, Prod.mk.injEq, Except.ok.injEq, Prod.ext_iff]

/-- The text for an error does not matter to what is given. -/
theorem gives_adapt {ε' : Type} {describe : ε → ε'} :
    Gives (x.adapt describe) w a w' ↔ Gives x w a w' := by
  have hadapt : (x.adapt describe).run.run w =
      ((x.run.run w).1.mapError describe, (x.run.run w).2) := rfl
  rw [Gives, Gives, hadapt]
  rcases x.run.run w with ⟨e | b, v⟩
  · exact iff_of_false nofun nofun
  · constructor <;> rintro ⟨⟩ <;> rfl

end

namespace Workspace

variable {w w' : Workspace} {path text : String}

/-- A text that was written is in the tree that is left. -/
theorem run_writeText :
    (Machine.writeText path text : StateM Workspace _).run w = (.ok (), w') ↔
      ∃ files, w.files.writeText w.workDir path text = .ok files ∧ w' = { w with files } := by
  cases hwrite : w.files.writeText w.workDir path text with
  | error fault =>
    have hrun : (Machine.writeText path text : StateM Workspace _).run w = (.error fault, w) := by
      simp [Machine.writeText, StateT.run, hwrite]
    rw [hrun]
    exact iff_of_false (fun h => by cases h) (by rintro ⟨_, ⟨⟩, _⟩)
  | ok files =>
    have hrun : (Machine.writeText path text : StateM Workspace _).run w =
        (.ok (), { w with files }) := by
      simp [Machine.writeText, StateT.run, hwrite]
    rw [hrun]
    constructor
    · intro h
      exact ⟨files, rfl, (Prod.mk.inj h).2.symm⟩
    · rintro ⟨_, ⟨⟩, rfl⟩
      rfl

end Workspace
end JoinWizard
