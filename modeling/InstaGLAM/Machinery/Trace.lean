import Mathlib.Order.WellFounded

/-!
# Machinery/Trace — runs that remember their events

A run is written with its latest event first, so what happened "since" an event is a first part of
the trace, and an invariant may speak of the state and of all that led to it.
-/

namespace Trace

variable {σ ε : Type*} {step : σ → ε → σ → Prop} {s₀ : σ}

/-- The runs of `step` from `s₀`, with their events, the latest first. -/
inductive Run (step : σ → ε → σ → Prop) (s₀ : σ) : List ε → σ → Prop
  | nil : Run step s₀ [] s₀
  | cons {trace s e s'} : Run step s₀ trace s → step s e s' → Run step s₀ (e :: trace) s'

/-- **The run rule**: what holds at the start and survives each event holds at the end. -/
theorem Run.invariant {I : List ε → σ → Prop} {trace : List ε} {s : σ}
    (h : Run step s₀ trace s) (h₀ : I [] s₀)
    (hstep : ∀ trace s e s', I trace s → step s e s' → I (e :: trace) s') : I trace s := by
  induction h with
  | nil => exact h₀
  | cons _ hs ih => exact hstep _ _ _ _ ih hs

/-- A run takes steps of any wider kind. -/
theorem Run.mono {step' : σ → ε → σ → Prop} {trace : List ε} {s : σ} (h : Run step s₀ trace s)
    (hsub : ∀ s e s', step s e s' → step' s e s') : Run step' s₀ trace s := by
  induction h with
  | nil => exact .nil
  | cons _ hs ih => exact ih.cons (hsub _ _ _ hs)

/-- What has happened so far is a run, too. -/
theorem Run.earlier {later earlier : List ε} {s : σ} (h : Run step s₀ (later ++ earlier) s) :
    ∃ s', Run step s₀ earlier s' := by
  induction later generalizing s with
  | nil => exact ⟨s, h⟩
  | cons e later ih =>
    cases h with
    | cons h _ => exact ih h

/-- In a run to `s`, the event `e` came after `earlier`, in the state `s₁`. -/
def Happened (step : σ → ε → σ → Prop) (s₀ : σ) (trace : List ε) (s : σ) (earlier : List ε) (s₁ : σ)
    (e : ε) : Prop :=
  Run step s₀ earlier s₁ ∧
    ∃ later s₂, step s₁ e s₂ ∧ Run step s₂ later s ∧ trace = later ++ e :: earlier

theorem Happened.now {trace : List ε} {s s' : σ} {e : ε} (h : Run step s₀ trace s)
    (hs : step s e s') : Happened step s₀ (e :: trace) s' trace s e :=
  ⟨h, [], s', hs, .nil, rfl⟩

/-- What has happened stays so. -/
theorem Happened.later {trace earlier : List ε} {s s₁ s' : σ} {e e' : ε}
    (h : Happened step s₀ trace s earlier s₁ e) (hs : step s e' s') :
    Happened step s₀ (e' :: trace) s' earlier s₁ e := by
  obtain ⟨hearlier, later, s₂, he, hlater, rfl⟩ := h
  exact ⟨hearlier, e' :: later, s₂, he, hlater.cons hs, rfl⟩

/-- One run after another. -/
theorem Run.append {earlier later : List ε} {s s' : σ} (h : Run step s₀ earlier s)
    (h' : Run step s later s') : Run step s₀ (later ++ earlier) s' := by
  induction h' with
  | nil => exact h
  | cons _ hs ih => exact .cons ih hs

/-- **The measure rule**: events of a kind that make a measure smaller, while an invariant holds,
come to an end in whatever order they come. -/
theorem acc_of_measure {β : Type*} [Preorder β] [WellFoundedLT β] {I : σ → Prop} {E : ε → Prop}
    (μ : σ → β) (hstep : ∀ s e s', I s → E e → step s e s' → I s' ∧ μ s' < μ s) {s : σ}
    (hs : I s) : Acc (fun s' s => ∃ e, E e ∧ step s e s') s := by
  induction hμ : μ s using WellFoundedLT.induction generalizing s with
  | ind m ih =>
    refine Acc.intro s fun s' ⟨e, he, hs'⟩ => ?_
    obtain ⟨hinv, hlt⟩ := hstep s e s' hs he hs'
    exact ih (μ s') (hμ ▸ hlt) hinv rfl

end Trace
