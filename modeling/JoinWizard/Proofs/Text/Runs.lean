/-
# The longest run at the start of a text

Readers take a text in runs: of digits, of the characters of a name, of everything up to a stop.  A
run that was written is read to its end if what comes next is no part of it
(`takeWhile_append_of_stop`, `dropWhile_append_of_stop`).  The other way round, what comes next
after a run that was read is no part of it (`eq_false_of_mem_head?_dropWhile`), and after a run up
to a stop it is that stop (`takeWhile_append_stop`).
-/

import Mathlib.Data.List.TakeWhile

namespace JoinWizard

variable {p : Char → Bool} {c stop : Char} {cs rest : List Char}

theorem takeWhile_append_of_stop (h : ∀ c ∈ cs, p c = true)
    (hrest : ∀ c ∈ rest.head?, p c = false) : (cs ++ rest).takeWhile p = cs := by
  rw [List.takeWhile_append_of_pos h]
  cases rest with
  | nil => exact List.append_nil cs
  | cons c rest =>
    rw [List.takeWhile_cons_of_neg (by rw [hrest c rfl]; decide), List.append_nil]

theorem dropWhile_append_of_stop (h : ∀ c ∈ cs, p c = true)
    (hrest : ∀ c ∈ rest.head?, p c = false) : (cs ++ rest).dropWhile p = rest := by
  rw [List.dropWhile_append_of_pos h]
  cases rest with
  | nil => rfl
  | cons c rest => rw [List.dropWhile_cons_of_neg (by rw [hrest c rfl]; decide)]

theorem eq_false_of_mem_head?_dropWhile (h : c ∈ (cs.dropWhile p).head?) : p c = false := by
  have hstop := List.head?_dropWhile_not p cs
  rw [Option.mem_def.1 h] at hstop
  exact hstop

/-! ## Up to a stop -/

theorem decide_ne_of_notMem (h : stop ∉ cs) : ∀ c ∈ cs, decide (c ≠ stop) = true :=
  fun _ hc => decide_eq_true fun hstop => h (hstop ▸ hc)

theorem notMem_takeWhile_ne : stop ∉ cs.takeWhile (· ≠ stop) := fun h => by
  simpa using List.mem_takeWhile_imp h

/-- A text with a stop is what is read up to it, the stop, and the rest. -/
theorem takeWhile_append_stop (h : cs.dropWhile (· ≠ stop) = c :: rest) :
    cs.takeWhile (· ≠ stop) ++ stop :: rest = cs := by
  have hc := eq_false_of_mem_head?_dropWhile (p := (· ≠ stop)) (c := c) (by rw [h]; rfl)
  obtain rfl : c = stop := by simpa using hc
  rw [← h, List.takeWhile_append_dropWhile]

end JoinWizard
