import Mathlib.Data.List.Basic

/-!
# Machinery/Redelivery — operations that are served again until they are answered

    make ──▸ unserved ──serve──▸ served ──answer──▸ answered
                 ▴────────again──────┘

A `Window` over all operations ever made.  Losing a connection puts what is served but not answered
back in front of what is unserved; besides, an operation that is to be served again may be served
late, for a connection that is gone.  So the server applies operations more than once and out of
order.  For operations that overwrite or do nothing this does not show in the end (`Settles`): what
the store holds is decided by an operation that is still to be served, or it is what the operations
served so far give in order, each once.
-/

namespace Redelivery

variable {α σ : Type*}

/-- The operations made so far, in order: answered, served but not answered, and to be served. -/
structure Window (α : Type*) where
  answered : List α
  served : List α
  unserved : List α

namespace Window

variable (W : Window α)

/-- All operations made. -/
def all : List α := W.answered ++ (W.served ++ W.unserved)

/-- A new operation. -/
def make (x : α) : Window α := { W with unserved := W.unserved ++ [x] }

/-- The next operation is served. -/
def serve (x : α) (rest : List α) : Window α :=
  { W with served := W.served ++ [x], unserved := rest }

/-- The first answer is read. -/
def answer (x : α) (rest : List α) : Window α :=
  { W with answered := W.answered ++ [x], served := rest }

/-- What is not answered is to be served again. -/
def again : Window α := { W with served := [], unserved := W.served ++ W.unserved }

@[simp] theorem all_make (x : α) : (W.make x).all = W.all ++ [x] := by simp [all, make]

variable {W}

theorem all_serve {x : α} {rest : List α} (h : W.unserved = x :: rest) :
    (W.serve x rest).all = W.all := by simp [all, serve, h]

theorem all_answer {x : α} {rest : List α} (h : W.served = x :: rest) :
    (W.answer x rest).all = W.all := by simp [all, answer, h]

@[simp] theorem all_again : W.again.all = W.all := by simp [all, again]

/-- What the client does with operations that are made, if anything. -/
inductive Quiet (W : Window α) : Window α → Prop
  | same : Quiet W W
  | again : Quiet W W.again
  | answer {x rest} : W.served = x :: rest → Quiet W (W.answer x rest)

end Window

/-! ## The store -/

variable (apply : σ → α → σ)

/-- The outcome of the operation does not depend on what was there. -/
def Overwrites (x : α) : Prop := ∀ s s', apply s x = apply s' x

/-- The operation does nothing. -/
def Idle (x : α) : Prop := ∀ s, apply s x = s

/-- What a store holds beside a window: it may be anything while an overwriting operation is to be
served, and else it is what has been served, in order. -/
def Settles (s₀ : σ) (W : Window α) (s : σ) : Prop :=
  (∃ x ∈ W.unserved, Overwrites apply x) ∨ s = (W.answered ++ W.served).foldl apply s₀

variable {apply} {s₀ s : σ} {W : Window α}

theorem foldl_of_idle {l : List α} (h : ∀ x ∈ l, Idle apply x) (s : σ) : l.foldl apply s = s := by
  induction l generalizing s with
  | nil => rfl
  | cons x l ih =>
    rw [List.foldl_cons, h x List.mem_cons_self]
    exact ih (fun y hy => h y (List.mem_cons_of_mem _ hy)) s

theorem settles_make (h : Settles apply s₀ W s) (x : α) : Settles apply s₀ (W.make x) s :=
  h.imp_left fun ⟨y, hy, hover⟩ => ⟨y, List.mem_append_left _ hy, hover⟩

/-- **Serving in order** keeps the store settled, from either side. -/
theorem settles_serve {x : α} {rest : List α} (h : Settles apply s₀ W s)
    (hx : Overwrites apply x ∨ Idle apply x) (hnext : W.unserved = x :: rest) :
    Settles apply s₀ (W.serve x rest) (apply s x) := by
  have hdone : ((W.serve x rest).answered ++ (W.serve x rest).served).foldl apply s₀ =
      apply ((W.answered ++ W.served).foldl apply s₀) x := by
    simp [Window.serve, ← List.append_assoc]
  rcases h with ⟨y, hy, hover⟩ | rfl
  · rw [hnext] at hy
    rcases List.mem_cons.1 hy with rfl | hy
    · exact Or.inr ((hover _ _).trans hdone.symm)
    · exact Or.inl ⟨y, hy, hover⟩
  · exact Or.inr hdone.symm

theorem settles_answer {x : α} {rest : List α} (h : Settles apply s₀ W s)
    (hnext : W.served = x :: rest) : Settles apply s₀ (W.answer x rest) s := by
  refine h.imp_right fun hs => hs.trans ?_
  simp [Window.answer, hnext]

/-- **Starting again** keeps it settled: what is now to be served again overwrites or did
nothing. -/
theorem settles_again (h : Settles apply s₀ W s)
    (hserved : ∀ x ∈ W.served, Overwrites apply x ∨ Idle apply x) :
    Settles apply s₀ W.again s := by
  rcases h with ⟨x, hx, hover⟩ | rfl
  · exact Or.inl ⟨x, List.mem_append_right _ hx, hover⟩
  · by_cases hsome : ∃ x ∈ W.served, Overwrites apply x
    · obtain ⟨x, hx, hover⟩ := hsome
      exact Or.inl ⟨x, List.mem_append_left _ hx, hover⟩
    · have hidle : ∀ x ∈ W.served, Idle apply x := fun x hx =>
        (hserved x hx).resolve_left fun hover => hsome ⟨x, hx, hover⟩
      refine Or.inr ?_
      rw [List.foldl_append, foldl_of_idle hidle]
      exact (congrArg (List.foldl apply s₀) (List.append_nil _)).symm

theorem settles_quiet {W' : Window α} (hq : W.Quiet W') (h : Settles apply s₀ W s)
    (hall : ∀ x, Overwrites apply x ∨ Idle apply x) : Settles apply s₀ W' s := by
  cases hq with
  | same => exact h
  | again => exact settles_again h fun x _ => hall x
  | answer hnext => exact settles_answer h hnext

/-- **Serving late**, what is to be served again anyway, keeps it settled. -/
theorem settles_late {x : α} (h : Settles apply s₀ W s) (hx : Overwrites apply x ∨ Idle apply x)
    (hmem : x ∈ W.unserved) : Settles apply s₀ W (apply s x) := by
  rcases hx with hover | hidle
  · exact Or.inl ⟨x, hmem, hover⟩
  · rwa [hidle s]

/-- Once all that matters has been served, the store holds what serving each operation once would
have given. -/
theorem eq_of_settles (h : Settles apply s₀ W s) (hidle : ∀ x ∈ W.unserved, Idle apply x) :
    s = W.all.foldl apply s₀ := by
  rw [Window.all, ← List.append_assoc, List.foldl_append, foldl_of_idle hidle]
  rcases h with ⟨x, hx, hover⟩ | hs
  · have hsame := hover s ((W.answered ++ W.served).foldl apply s₀)
    rwa [hidle x hx, hidle x hx] at hsame
  · exact hs

end Redelivery
