import Mathlib.Data.List.Basic

/-!
# Machinery/Scan — cutting a list at its first or its last separator

    before x s ++ x :: after x s   =   s   =   beforeLast x s ++ x :: afterLast x s

Four one-pass scans, each total: without the separator the cut is at the end of the list, or at its
start for the last two.  `before_append` and its three companions say that a cut found in any other
way is the one the scan finds, as soon as the piece the scan runs over is free of the separator.
-/

namespace Scan

variable {α : Type*} [DecidableEq α] {x : α} {a b s : List α}

/-- What precedes the first `x`. -/
def before (x : α) (s : List α) : List α := s.takeWhile fun c => !decide (c = x)

/-- What follows the first `x`. -/
def after (x : α) (s : List α) : List α := (s.dropWhile fun c => !decide (c = x)).tail

/-- What precedes the last `x`. -/
def beforeLast (x : α) (s : List α) : List α := (after x s.reverse).reverse

/-- What follows the last `x`. -/
def afterLast (x : α) (s : List α) : List α := (before x s.reverse).reverse

/-! ## The first separator -/

/-- A scan passes over what is free of the separator. -/
theorem free_iff : (∀ c ∈ a, (!decide (c = x)) = true) ↔ x ∉ a := by
  simp only [Bool.not_eq_eq_eq_not, Bool.not_true, decide_eq_false_iff_not]
  exact ⟨fun h hx => h x hx rfl, fun h c hc hcx => h (hcx ▸ hc)⟩

theorem before_append (h : x ∉ a) : before x (a ++ x :: b) = a := by
  rw [before, List.takeWhile_append_of_pos (free_iff.2 h), List.takeWhile_cons_of_neg (by simp),
    List.append_nil]

theorem after_append (h : x ∉ a) : after x (a ++ x :: b) = b := by
  rw [after, List.dropWhile_append_of_pos (free_iff.2 h), List.dropWhile_cons_of_neg (by simp),
    List.tail_cons]

/-- **The first cut** puts the list together again. -/
theorem before_append_after (h : x ∈ s) : before x s ++ x :: after x s = s := by
  obtain ⟨a, b, rfl, ha⟩ := List.eq_append_cons_of_mem h
  rw [before_append ha, after_append ha]

/-! ## The last separator -/

theorem afterLast_append (h : x ∉ b) : afterLast x (a ++ x :: b) = b := by
  have hrev : (a ++ x :: b).reverse = b.reverse ++ x :: a.reverse := by simp
  rw [afterLast, hrev, before_append (by simpa using h), List.reverse_reverse]

theorem beforeLast_append (h : x ∉ b) : beforeLast x (a ++ x :: b) = a := by
  have hrev : (a ++ x :: b).reverse = b.reverse ++ x :: a.reverse := by simp
  rw [beforeLast, hrev, after_append (by simpa using h), List.reverse_reverse]

/-- **The last cut** puts the list together again. -/
theorem beforeLast_append_afterLast (h : x ∈ s) : beforeLast x s ++ x :: afterLast x s = s := by
  have hcut := congrArg List.reverse (before_append_after (List.mem_reverse.2 h))
  simpa [beforeLast, afterLast] using hcut

end Scan
