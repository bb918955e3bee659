import InstaGLAM.Machinery.Trace
import Mathlib.Data.Nat.Notation
import Mathlib.Logic.Function.Basic

/-!
# Machinery/TableView — rows that come and go, in recycled cells

    data source ──cellForRow──▸ shown row ──scrolled away──▸ pool ──prepareForReuse──▸ cellForRow …

A table asks its data source for the cell of each row that comes on screen.  The data source
dequeues a cell by its identifier, and gets a new one or one that another row has given up; the
table may also drop pooled cells at will.  `mem_appeared` is all there is to know about a row in any
scroll history: its cell came from `cellForRow`, out of such a dequeue.
-/

namespace TableView

open Trace

variable {μ ξ γ : Type*}

/-- A row of a table. -/
structure IndexPath where
  sectionIdx : ℕ
  row : ℕ
  deriving DecidableEq

/-- How cells with identifiers in `ξ` are made and reset; what is made may depend on the moment,
which is a `μ`. -/
structure CellRegistry (μ ξ γ : Type*) where
  make : μ → ξ → γ
  prepareForReuse : γ → γ
  identifier : γ → Option ξ

/-- A data source; `none` where the code traps. -/
structure DataSource (ξ γ : Type*) where
  numberOfSections : ℕ
  numberOfRows : ℕ → Option ℕ
  cellForRow : (ξ → γ) → IndexPath → Option γ

/-- A row the data source announces. -/
def DataSource.HasRow (D : DataSource ξ γ) (ix : IndexPath) : Prop :=
  ix.sectionIdx < D.numberOfSections ∧ ∃ n, D.numberOfRows ix.sectionIdx = some n ∧ ix.row < n

/-- The cells on screen, and the pool of those given up. -/
structure Table (γ : Type*) where
  shown : IndexPath → Option γ
  pool : List γ

/-- Nothing on screen yet. -/
def Table.empty : Table γ := ⟨fun _ => none, []⟩

/-- `d` hands out new cells, or pooled ones that have been prepared for reuse. -/
def Dequeues (R : CellRegistry μ ξ γ) (pool : List γ) (d : ξ → γ) : Prop :=
  ∀ x, (∃ μ, d x = R.make μ x) ∨ ∃ c ∈ pool, R.identifier c = some x ∧ d x = R.prepareForReuse c

/-- A row comes on screen in a cell, or goes. -/
inductive Scroll (γ : Type*) where
  | appeared (ix : IndexPath) (cell : γ)
  | disappeared (ix : IndexPath)

/-- One step of scrolling. -/
inductive Step (R : CellRegistry μ ξ γ) (D : DataSource ξ γ) : Table γ → Scroll γ → Table γ → Prop
  | appeared {t ix d c pool} : t.shown ix = none → D.HasRow ix → Dequeues R t.pool d →
      D.cellForRow d ix = some c → pool.Sublist t.pool →
      Step R D t (.appeared ix c) ⟨Function.update t.shown ix (some c), pool⟩
  | disappeared {t ix c} : t.shown ix = some c →
      Step R D t (.disappeared ix) ⟨Function.update t.shown ix none, c :: t.pool⟩

variable {R : CellRegistry μ ξ γ} {D : DataSource ξ γ} {trace : List (Scroll γ)} {t : Table γ}
  {ix : IndexPath} {c : γ}

/-- New cells can always be dequeued. -/
theorem dequeues_make (pool : List γ) (m : μ) : Dequeues R pool (R.make m) :=
  fun _ => Or.inl ⟨m, rfl⟩

/-- **Every cell a scroll history shows** is one the data source makes of a dequeue for a row it
announces. -/
theorem mem_appeared (h : Run (Step R D) Table.empty trace t) (hc : .appeared ix c ∈ trace) :
    D.HasRow ix ∧ ∃ d pool, Dequeues R pool d ∧ D.cellForRow d ix = some c := by
  induction h with
  | nil => exact nomatch hc
  | cons _ hs ih =>
    rcases List.mem_cons.1 hc with rfl | hc
    · cases hs with
      | appeared _ hrow hd hcell _ => exact ⟨hrow, _, _, hd, hcell⟩
    · exact ih hc

/-- The first row to come on screen can be any row, in a new cell. -/
theorem exists_appeared {m : μ} (hrow : D.HasRow ix) (hc : D.cellForRow (R.make m) ix = some c) :
    ∃ trace t, Run (Step R D) Table.empty trace t ∧ .appeared ix c ∈ trace := by
  have hstart : Run (Step R D) Table.empty [] Table.empty := .nil
  have hrun := hstart.cons (.appeared rfl hrow (dequeues_make _ m) hc (List.Sublist.refl _))
  exact ⟨_, _, hrun, List.mem_cons_self⟩

end TableView
