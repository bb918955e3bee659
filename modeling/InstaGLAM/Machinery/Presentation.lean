import Mathlib.Data.List.Basic
import Mathlib.Data.List.TakeWhile
import Mathlib.Tactic.SplitIfs

/-!
# Machinery/Presentation — controllers presented over a base

    base ──presents──▸ c₁ ──presents──▸ c₂ ──presents──▸ … ──presents──▸ top

The controllers presented over the base form a stack, written with the top first.  Only the top may
present, and `dismiss` called on a controller that is itself presenting removes what is above it:
only the top can remove itself.
-/

namespace Presentation

variable {γ : Type*} [DecidableEq γ] {c d : γ} {presenter : Option γ} {stack : List γ}

/-- `present(_:)` called on `presenter`, the base being `none`: ignored unless nothing is above. -/
def present (presenter : Option γ) (new : γ) (stack : List γ) : List γ :=
  if stack.head? = presenter then new :: stack else stack

/-- `dismiss` called on `c`: the top goes, a covered controller stays and loses what is above it,
and a controller that is not presented does nothing. -/
def dismiss (c : γ) (stack : List γ) : List γ :=
  if stack.head? = some c then stack.tail
  else if c ∈ stack then stack.dropWhile (· ≠ c)
  else stack

theorem present_of_head (h : stack.head? = presenter) (new : γ) :
    present presenter new stack = new :: stack := if_pos h

theorem present_of_covered (h : stack.head? ≠ presenter) (new : γ) :
    present presenter new stack = stack := if_neg h

theorem dismiss_of_head (h : stack.head? = some c) : dismiss c stack = stack.tail := if_pos h

/-- **Dismissing only ever removes from the top.** -/
theorem dismiss_suffix (c : γ) (stack : List γ) : dismiss c stack <:+ stack := by
  rw [dismiss]
  split_ifs
  · exact List.tail_suffix _
  · exact List.dropWhile_suffix _
  · exact List.suffix_rfl

/-- **A controller that is not the top cannot take the bottom away.** -/
theorem getLast?_dismiss (h : stack.head? ≠ some c) :
    (dismiss c stack).getLast? = stack.getLast? := by
  rw [dismiss, if_neg h]
  split_ifs with hc
  · obtain ⟨u, hu⟩ := List.dropWhile_suffix (l := stack) fun d => decide (d ≠ c)
    have hne : stack.dropWhile (fun d => decide (d ≠ c)) ≠ [] := fun hnil => by
      simpa using List.dropWhile_eq_nil_iff.1 hnil c hc
    exact (List.getLast?_append_of_ne_nil u hne).symm.trans (congrArg List.getLast? hu)
  · rfl

/-! ## A kind of controller that only sits at the bottom

`P` is a kind of controller that is only ever presented over the base.  Whatever else comes and goes
above, the stack shows one exactly as long as the bottom is one. -/

/-- No controller of the kind has anything below it. -/
def OnlyBottom (P : γ → Prop) (stack : List γ) : Prop := ∀ c ∈ stack.dropLast, ¬ P c

/-- A controller of the kind is on the stack. -/
def Shown (P : γ → Prop) (stack : List γ) : Prop := ∃ c ∈ stack, P c

variable {P : γ → Prop}

omit [DecidableEq γ] in
theorem shown_iff_getLast? (h : OnlyBottom P stack) :
    Shown P stack ↔ ∃ c, stack.getLast? = some c ∧ P c := by
  constructor
  · rintro ⟨c, hc, hP⟩
    have hlast : some c = stack.getLast? := by
      by_contra hne
      exact h c (List.mem_dropLast_of_mem_of_ne_getLast? hc hne) hP
    exact ⟨c, hlast.symm, hP⟩
  · rintro ⟨c, hc, hP⟩
    exact ⟨c, List.mem_of_getLast? hc, hP⟩

omit [DecidableEq γ] in
theorem OnlyBottom.suffix {s t : List γ} (h : OnlyBottom P t) (hst : s <:+ t) :
    OnlyBottom P s := by
  obtain ⟨u, rfl⟩ := hst
  intro c hc
  have hs : s ≠ [] := by
    rintro rfl
    simp at hc
  refine h c ?_
  rw [List.dropLast_append_of_ne_nil hs]
  exact List.mem_append_right u hc

theorem OnlyBottom.present {new : γ} (h : OnlyBottom P stack) (hnew : ¬ P new) :
    OnlyBottom P (present presenter new stack) := by
  by_cases hp : stack.head? = presenter
  · rw [present_of_head hp]
    rcases stack with - | ⟨a, s⟩
    · exact fun c hc => by simp at hc
    · intro c hc
      rw [List.dropLast_cons_cons, List.mem_cons] at hc
      rcases hc with rfl | hc
      · exact hnew
      · exact h c hc
  · rwa [present_of_covered hp]

theorem OnlyBottom.dismiss (h : OnlyBottom P stack) (c : γ) : OnlyBottom P (dismiss c stack) :=
  h.suffix (dismiss_suffix c stack)

/-- Presenting something of another kind shows none and hides none. -/
theorem shown_present_iff {new : γ} (hnew : ¬ P new) :
    Shown P (present presenter new stack) ↔ Shown P stack := by
  by_cases hp : stack.head? = presenter
  · rw [present_of_head hp]
    simp [Shown, hnew]
  · rw [present_of_covered hp]

/-- **Dismissing hides the bottom only as the top of the stack**: a controller of another kind, or
one that is covered, leaves it where it is. -/
theorem shown_dismiss_iff (h : OnlyBottom P stack) (hc : ¬ P c ∨ stack.head? ≠ some c) :
    Shown P (dismiss c stack) ↔ Shown P stack := by
  by_cases hhead : stack.head? = some c
  · obtain ⟨s, rfl⟩ := List.head?_eq_some_iff.1 hhead
    have hP : ¬ P c := hc.resolve_right fun hne => hne hhead
    rw [dismiss_of_head hhead]
    simp [Shown, hP]
  · rw [shown_iff_getLast? (h.dismiss c), shown_iff_getLast? h, getLast?_dismiss hhead]

/-- **As the top of the stack it takes itself away.** -/
theorem not_shown_dismiss (h : OnlyBottom P stack) (hP : P c) (hhead : stack.head? = some c) :
    ¬ Shown P (dismiss c stack) := by
  obtain ⟨s, rfl⟩ := List.head?_eq_some_iff.1 hhead
  rcases s with - | ⟨a, s⟩
  · simp [dismiss_of_head hhead, Shown]
  · exact absurd hP (h c (by simp))

end Presentation
