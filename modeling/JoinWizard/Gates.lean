/-
# The gates of the wizard step

Two flags say how the step may be left.  They follow from the model and are stored nowhere.

| flag | open when |
| --- | --- |
| `valid` | more than one table is selected and, in star mode, a fact table is chosen |
| `finishable` | one table is selected, or in star mode a fact table is chosen |

Both may be open at once.  The step may be completed when either is (`Gates.canComplete`).
-/

import JoinWizard.FactTable

namespace JoinWizard

/-- What kind of model is configured. -/
inductive Mode where
  /-- Joined tables, with no table above the others. -/
  | flat
  /-- A star schema: a fact table has to be chosen. -/
  | star
  deriving DecidableEq, Repr, Inhabited

namespace Mode

/-- The mode that a star schema setting asks for. -/
def ofStar (star : Bool) : Mode := if star then .star else .flat

/-- Whether a fact table has to be chosen. -/
def isStar (m : Mode) : Bool := m = .star

/-- The word for a mode. -/
def text : Mode → String
  | flat => "flat"
  | star => "star"

instance : JsonCodec Mode where
  encode m := .text m.text
  decode v :=
    match v.case? with
    | some "flat" => some .flat
    | some "star" => some .star
    | _ => none

end Mode

/-- Whether the step may be left forward, and whether the wizard may finish here. -/
structure Gates where
  valid : Bool
  finishable : Bool
  deriving DecidableEq, Repr

namespace Gates

/-- Both gates closed. -/
def blocked : Gates := ⟨false, false⟩

/-- The gates for a number of selected tables, a mode, and a fact table chosen or not. -/
def evaluate (selected : Nat) (mode : Mode) (factChosen : Bool) : Gates where
  valid := selected > 1 && (!mode.isStar || factChosen)
  finishable := selected = 1 || (mode.isStar && factChosen && selected ≥ 1)

/-- The gates of a model.  A fact table counts only while it is selected. -/
def ofModel (s : Selection) (fact : FactTable) (mode : Mode) : Gates :=
  evaluate s.size mode (fact.table? s).isSome

/-- Whether the step may be completed, forward or by finishing. -/
def canComplete (g : Gates) : Bool := g.valid || g.finishable

instance : JsonCodec Gates where
  encode g := .ofFields [
    ("valid", some (encode g.valid)),
    ("finishable", some (encode g.finishable))]
  decode v := do
    let field ← v.record? ["valid", "finishable"]
    return {
      valid := ← JsonCodec.required (field "valid")
      finishable := ← JsonCodec.required (field "finishable") }

end Gates

end JoinWizard
