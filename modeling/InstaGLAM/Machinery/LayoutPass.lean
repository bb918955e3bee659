import Mathlib.Data.List.Basic

/-!
# Machinery/LayoutPass — a screen loaded once and laid out again and again

    load g₀ ──layout g₁──▸ … ──layout gₙ──▸

A part of the screen may be computed anew in every pass (`part_of_recomputed`), once and for all
when the screen is loaded (`part_of_loaded`), or in the first pass only (`part_of_first`); in the
three cases it shows the geometry of the last pass, of the load and of the first pass.
-/

namespace LayoutPass

variable {G σ π : Type*}

/-- How a screen is loaded and how it is laid out, in a geometry. -/
structure Screen (G σ : Type*) where
  load : G → σ
  layout : σ → G → σ

/-- The screen after some passes, the latest first. -/
def Screen.after (S : Screen G σ) (g₀ : G) (passes : List G) : σ :=
  passes.foldr (fun g s => S.layout s g) (S.load g₀)

/-- **The layout depends on the current geometry only**: after any passes it is what loading and
laying out in the last geometry would make of it. -/
def Screen.UpToDate (S : Screen G σ) (g₀ last : G) (earlier : List G) : Prop :=
  S.after g₀ (last :: earlier) = S.after last [last]

variable {S : Screen G σ} {part : σ → π} {F : G → π}

theorem after_cons (S : Screen G σ) (g₀ g : G) (passes : List G) :
    S.after g₀ (g :: passes) = S.layout (S.after g₀ passes) g := rfl

theorem part_of_recomputed (h : ∀ s g, part (S.layout s g) = F g) (g₀ last : G) (earlier : List G) :
    part (S.after g₀ (last :: earlier)) = F last := h _ _

theorem part_of_loaded (h : ∀ s g, part (S.layout s g) = part s) (g₀ : G) (passes : List G) :
    part (S.after g₀ passes) = part (S.load g₀) := by
  induction passes with
  | nil => rfl
  | cons g passes ih => rw [after_cons, h, ih]

/-- **A part that is loaded and never laid out** makes the screen out of date, when all else is
computed anew. -/
theorem upToDate_iff_of_loaded (h : ∀ s g, part (S.layout s g) = part s)
    (hcongr : ∀ s s' g, part s = part s' → S.layout s g = S.layout s' g) {g₀ last : G}
    {earlier : List G} : S.UpToDate g₀ last earlier ↔ part (S.load g₀) = part (S.load last) := by
  constructor
  · intro heq
    have hpart := congrArg part heq
    rwa [part_of_loaded h, part_of_loaded h] at hpart
  · intro heq
    rw [Screen.UpToDate, after_cons, after_cons]
    exact hcongr _ _ _ ((part_of_loaded h g₀ earlier).trans heq)

/-- The first pass, when `last` is the latest of the passes. -/
theorem part_of_first {P : σ → Prop} (hload : ∀ g, P (S.load g))
    (hfirst : ∀ s g, P s → part (S.layout s g) = F g)
    (hlater : ∀ s g, ¬ P s → part (S.layout s g) = part s) (hdone : ∀ s g, ¬ P (S.layout s g))
    (g₀ last : G) (earlier : List G) :
    part (S.after g₀ (last :: earlier)) = F (earlier.getLastD last) := by
  induction earlier generalizing last with
  | nil => exact hfirst _ _ (hload g₀)
  | cons g earlier ih =>
    rw [after_cons, hlater _ _ (by rw [after_cons]; exact hdone _ _), ih g, List.getLastD_cons]

end LayoutPass
