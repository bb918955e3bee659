import Mathlib.Tactic.TypeStar

/-!
# Machinery/Recycling — one cell, configured again and again

    made ──configure──▸ … ──prepareForReuse──▸ … ──configure──▸ …    (with other events throughout)

What a cell looks like after `configure` may depend on what it was before.  It does not, as soon as
`configure` looks the same on all *blank* cells, and a new cell and one prepared for reuse are
blank: `look_after_configure`.
-/

namespace Recycling

variable {γ μ ε ν : Type*}

/-- A class of cells: how they are made, configured with a `μ` and prepared for reuse, and what else
can happen to one. -/
structure CellClass (μ ε γ : Type*) where
  made : γ
  configure : γ → μ → γ
  prepareForReuse : γ → γ
  other : γ → ε → γ

/-- What happens to a cell. -/
inductive Event (μ ε : Type*) where
  | configure (model : μ)
  | prepareForReuse
  | other (e : ε)

/-- One event. -/
def CellClass.step (C : CellClass μ ε γ) (c : γ) : Event μ ε → γ
  | .configure model => C.configure c model
  | .prepareForReuse => C.prepareForReuse c
  | .other e => C.other c e

/-- The cell after a history, the latest event first. -/
def CellClass.after (C : CellClass μ ε γ) (history : List (Event μ ε)) : γ :=
  history.foldr (fun e c => C.step c e) C.made

/-- The cell may be configured: it never was, or it has been prepared for reuse since. -/
def ready : List (Event μ ε) → Bool
  | [] => true
  | .prepareForReuse :: _ => true
  | .configure _ :: _ => false
  | .other _ :: history => ready history

/-- Each `configure` but the first is preceded by a `prepareForReuse`. -/
def Prepared : List (Event μ ε) → Prop
  | [] => True
  | .configure _ :: history => ready history = true ∧ Prepared history
  | .prepareForReuse :: history | .other _ :: history => Prepared history

variable {C : CellClass μ ε γ} {history : List (Event μ ε)} {model : μ}

theorem after_cons (e : Event μ ε) (history : List (Event μ ε)) :
    C.after (e :: history) = C.step (C.after history) e := rfl

/-- What no other event touches is as `configure` left it. -/
theorem after_others {f : γ → ν} (hother : ∀ c e, f (C.other c e) = f c) (es : List ε)
    (history : List (Event μ ε)) :
    f (C.after (es.map .other ++ history)) = f (C.after history) := by
  induction es with
  | nil => rfl
  | cons e es ih =>
    rw [List.map_cons, List.cons_append, after_cons]
    exact (hother _ e).trans ih

/-- A cell that may be configured is blank. -/
theorem blank_of_ready {B : γ → Prop} (hmade : B C.made)
    (hprepare : ∀ c, B (C.prepareForReuse c)) (hother : ∀ c e, B c → B (C.other c e))
    (hr : ready history = true) : B (C.after history) := by
  induction history with
  | nil => exact hmade
  | cons e history ih =>
    rw [after_cons]
    cases e with
    | prepareForReuse => exact hprepare _
    | configure => exact Bool.noConfusion hr
    | other e => exact hother _ e (ih hr)

/-- **A cell does not remember earlier rows**: after a prepared history and the last `configure` it
looks like a new cell configured with the same model. -/
theorem look_after_configure {B : γ → Prop} {f : γ → ν} (hmade : B C.made)
    (hprepare : ∀ c, B (C.prepareForReuse c)) (hother : ∀ c e, B c → B (C.other c e))
    (hlook : ∀ c, B c → f (C.configure c model) = f (C.configure C.made model))
    (hkeep : ∀ c e, f (C.other c e) = f c) (h : Prepared (.configure model :: history))
    (es : List ε) :
    f (C.after (es.map .other ++ .configure model :: history))
      = f (C.configure C.made model) := by
  rw [after_others hkeep, after_cons]
  exact hlook _ (blank_of_ready hmade hprepare hother h.1)

end Recycling
