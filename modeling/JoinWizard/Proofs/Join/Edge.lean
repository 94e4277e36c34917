/-
# Edges

The edge key of a join lists its endpoints in increasing order, and the order of endpoints is
total and antisymmetric.  So two joins are the same edge exactly when they are equal or one is the
reverse of the other (`Join.sameEdge_iff`), and that is how the graph is spoken of from here on.

In other words the key stands for the unordered pair of the endpoints (`Join.ends`), and a join is
an edge by that pair alone (`Join.sameEdge_iff_ends`).  To be the same edge is to have the same
pair, hence an equivalence; a reversed join has the pair that it had; and the tables that a join
touches are read off the pair.
-/

import JoinWizard.Join
import Mathlib.Data.List.Nodup
import Mathlib.Data.Sym.Sym2

namespace JoinWizard
namespace Endpoint

/-- Comparing the other way round gives the opposite order. -/
theorem compare_swap (a b : Endpoint) : (a.compare b).swap = b.compare a := by
  have hs (x y : String) : (compareOfLessAndEq x y).swap = compareOfLessAndEq y x :=
    (Std.OrientedOrd.eq_swap (α := String)).symm
  rw [compare, Ordering.swap_then, hs, hs]
  rfl

/-- Only equal endpoints compare equal. -/
theorem compare_eq_eq {a b : Endpoint} : a.compare b = .eq ↔ a = b := by
  have hs (x y : String) : compareOfLessAndEq x y = .eq ↔ x = y :=
    Std.LawfulEqOrd.compare_eq_iff_eq (α := String)
  rw [compare, Ordering.then_eq_eq, hs, hs]
  cases a
  cases b
  simp

end Endpoint

namespace Join

/-- A join and its reverse have one key. -/
theorem edgeKey_reverse (j : Join) : j.reverse.edgeKey = j.edgeKey := by
  have hswap := Endpoint.compare_swap j.left j.right
  have heq := Endpoint.compare_eq_eq (a := j.left) (b := j.right)
  simp only [edgeKey, reverse, ← hswap]
  cases hc : j.left.compare j.right with
  | lt => simp
  | eq => simp [heq.1 hc]
  | gt => simp

/-- A key lists the two ends in one of the two orders. -/
theorem edgeKey_eq_or (j : Join) :
    j.edgeKey = (j.left, j.right) ∨ j.edgeKey = (j.right, j.left) := by
  unfold edgeKey
  split
  · exact .inr rfl
  · exact .inl rfl

/-- **Two joins are the same edge if they are equal or one is the other's reverse.** -/
theorem sameEdge_iff {a b : Join} : a.sameEdge b = true ↔ a = b ∨ a = b.reverse := by
  rw [sameEdge, decide_eq_true_iff]
  constructor
  · intro h
    obtain ⟨al, ar⟩ := a
    obtain ⟨bl, br⟩ := b
    rcases edgeKey_eq_or ⟨al, ar⟩ with ha | ha <;> rcases edgeKey_eq_or ⟨bl, br⟩ with hb | hb <;>
      rw [ha, hb, Prod.mk.injEq] at h <;> obtain ⟨rfl, rfl⟩ := h
    · exact .inl rfl
    · exact .inr rfl
    · exact .inr rfl
    · exact .inl rfl
  · rintro (rfl | rfl)
    · rfl
    · exact edgeKey_reverse b

theorem sameEdge_eq_false_iff {a b : Join} : a.sameEdge b = false ↔ a ≠ b ∧ a ≠ b.reverse := by
  rw [← Bool.not_eq_true, sameEdge_iff, not_or]

theorem sameEdge_comm (a b : Join) : a.sameEdge b = b.sameEdge a := by
  unfold sameEdge
  exact decide_eq_decide.2 eq_comm

/-! ## The unordered pair of endpoints -/

/-- The endpoints of a join, in no order. -/
def ends (j : Join) : Sym2 Endpoint := s(j.left, j.right)

theorem ends_eq_iff {a b : Join} : a.ends = b.ends ↔
    (a.left = b.left ∧ a.right = b.right) ∨ (a.left = b.right ∧ a.right = b.left) :=
  Sym2.eq_iff

theorem ends_reverse (j : Join) : j.reverse.ends = j.ends := Sym2.eq_swap

/-- **A join is an edge by its pair of endpoints.** -/
theorem sameEdge_iff_ends {a b : Join} : a.sameEdge b = true ↔ a.ends = b.ends := by
  obtain ⟨al, ar⟩ := a
  obtain ⟨bl, br⟩ := b
  rw [sameEdge_iff, ends_eq_iff, reverse, Join.mk.injEq, Join.mk.injEq]

/-- **The key stands for the pair.** -/
theorem edgeKey_eq_iff_ends {a b : Join} : a.edgeKey = b.edgeKey ↔ a.ends = b.ends := by
  rw [← sameEdge_iff_ends, sameEdge, decide_eq_true_iff]

/-- A join touches the tables of its endpoints, whichever of the two comes first. -/
theorem touches_iff {j : Join} {table : String} :
    j.touches table = true ↔ ∃ e ∈ j.ends, e.table = table := by
  simp [touches, ends]

/-- Whether two joins are the same edge depends on their pairs alone. -/
theorem sameEdge_congr {a b c d : Join} (h : a.ends = c.ends) (h' : b.ends = d.ends) :
    a.sameEdge b = c.sameEdge d := by
  rw [Bool.eq_iff_iff, sameEdge_iff_ends, sameEdge_iff_ends, h, h']

/-- So do the tables that a join touches. -/
theorem touches_congr {a b : Join} (h : a.ends = b.ends) (table : String) :
    a.touches table = b.touches table := by
  rw [Bool.eq_iff_iff, touches_iff, touches_iff, h]

/-- **Joins are the same edge exactly if they pair the same endpoints,** left with left or left with
right, which is when their keys are equal.  So to be the same edge is an equivalence of joins, to
reverse either of two joins changes nothing about it, and joins that are the same edge touch the
same tables. -/
theorem edges_are_pairs :
    (∀ a b : Join, (a.sameEdge b = true ↔
      (a.left = b.left ∧ a.right = b.right) ∨ (a.left = b.right ∧ a.right = b.left)) ∧
      (a.edgeKey = b.edgeKey ↔ a.ends = b.ends)) ∧
    Equivalence (fun a b : Join => a.sameEdge b = true) ∧
    (∀ a b : Join, a.reverse.sameEdge b = a.sameEdge b ∧ a.sameEdge b.reverse = a.sameEdge b) ∧
    ∀ a b : Join, a.sameEdge b = true → ∀ table, a.touches table = b.touches table := by
  refine ⟨fun a b => ⟨?pair, ?key⟩, ?equivalence, fun a b => ⟨?left, ?right⟩, fun a b h => ?touched⟩
  case pair => exact sameEdge_iff_ends.trans ends_eq_iff
  case key => exact edgeKey_eq_iff_ends
  case equivalence =>
    simp only [sameEdge_iff_ends]
    exact ⟨fun _ => rfl, Eq.symm, Eq.trans⟩
  case left => exact sameEdge_congr (ends_reverse a) rfl
  case right => exact sameEdge_congr rfl (ends_reverse b)
  case touched => exact touches_congr (sameEdge_iff_ends.1 h)

/-- A join declared from the orders and one declared from the customers touch the same tables. -/
theorem edges_are_pairs_orders :
    let declared : Join := ⟨⟨"orders", "customer"⟩, ⟨"customers", "id"⟩⟩
    let other : Join := ⟨⟨"customers", "id"⟩, ⟨"orders", "customer"⟩⟩
    declared.sameEdge other = true ∧
      ∀ table, declared.touches table = other.touches table := by
  intro declared other
  have h : declared.sameEdge other = true := by decide
  exact ⟨h, edges_are_pairs.2.2.2 declared other h⟩

/-- The joins that are not the same edge as an earlier one of the list. -/
def firstOfEdge : List Join → List Join
  | [] => []
  | j :: js => j :: (firstOfEdge js).filter fun k => !k.sameEdge j

end Join
end JoinWizard
