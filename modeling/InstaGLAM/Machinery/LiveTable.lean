import InstaGLAM.Machinery.TableView

/-!
# Machinery/LiveTable — a table whose shown cells are touched

    scroll ──▸ rows come and go          touch at ix ──▸ the cell shown there, and its controller

The table of `Machinery/TableView` with a controller behind it: touching a cell changes the cell
and, through what the cell tells the controller, the controller.  A cell does not know its row.
`shown_step` is all a step does to the rows on screen.
-/

namespace LiveTable

open TableView Trace

variable {μ ξ γ σ ε : Type*}

/-- Cells, a data source for each state of the controller, and what a touch does: `none` where there
is nothing to touch. -/
structure Live (μ ξ γ σ ε : Type*) where
  registry : CellRegistry μ ξ γ
  dataSource : σ → DataSource ξ γ
  touch : σ → γ → ε → Option (γ × σ)

/-- What happens on screen. -/
inductive Event (γ ε : Type*) where
  | scroll (e : Scroll γ)
  | touched (ix : IndexPath) (e : ε)

/-- One step of a live table. -/
inductive Step (L : Live μ ξ γ σ ε) : Table γ × σ → Event γ ε → Table γ × σ → Prop
  | scroll {t t' s e} : TableView.Step L.registry (L.dataSource s) t e t' →
      Step L (t, s) (.scroll e) (t', s)
  | touched {t s ix c e c' s'} : t.shown ix = some c → L.touch s c e = some (c', s') →
      Step L (t, s) (.touched ix e) (⟨Function.update t.shown ix (some c'), t.pool⟩, s')

/-- The row an event is about. -/
def Event.row : Event γ ε → IndexPath
  | .scroll (.appeared ix _) | .scroll (.disappeared ix) | .touched ix _ => ix

/-- What a step leaves at the row it is about. -/
inductive Shows (L : Live μ ξ γ σ ε) (T : Table γ × σ) : Event γ ε → Option γ → Prop
  | appeared {ix c d} : (L.dataSource T.2).HasRow ix → Dequeues L.registry T.1.pool d →
      (L.dataSource T.2).cellForRow d ix = some c → Shows L T (.scroll (.appeared ix c)) (some c)
  | disappeared {ix} : Shows L T (.scroll (.disappeared ix)) none
  | touched {ix c e c' s'} : T.1.shown ix = some c → L.touch T.2 c e = some (c', s') →
      Shows L T (.touched ix e) (some c')

variable {L : Live μ ξ γ σ ε} {T T' : Table γ × σ} {e : Event γ ε} {trace : List (Event γ ε)}
  {ix : IndexPath} {c : γ}

/-- **A step changes one row of the screen**, and leaves all others. -/
theorem shown_step (h : Step L T e T') :
    Shows L T e (T'.1.shown e.row) ∧ ∀ ix, ix ≠ e.row → T'.1.shown ix = T.1.shown ix := by
  cases h with
  | scroll h =>
    cases h with
    | appeared hnone hrow hd hcell _ =>
      refine ⟨?_, fun ix hne => Function.update_of_ne hne _ _⟩
      simpa only [Event.row, Function.update_self] using Shows.appeared hrow hd hcell
    | disappeared hshown =>
      refine ⟨?_, fun ix hne => Function.update_of_ne hne _ _⟩
      simpa only [Event.row, Function.update_self] using Shows.disappeared
  | touched hshown htouch =>
    refine ⟨?_, fun ix hne => Function.update_of_ne hne _ _⟩
    simpa only [Event.row, Function.update_self] using Shows.touched hshown htouch

theorem shown_of_appeared (h : Step L T (.scroll (.appeared ix c)) T') :
    T'.1.shown ix = some c := by
  obtain ⟨hrow, -⟩ := shown_step h
  change Shows L T _ (T'.1.shown ix) at hrow
  generalize T'.1.shown ix = o at hrow
  cases hrow
  rfl

/-- The first row to come on screen can be any row, in a new cell. -/
theorem exists_appeared {s₀ : σ} {m : μ} (hrow : (L.dataSource s₀).HasRow ix)
    (hc : (L.dataSource s₀).cellForRow (L.registry.make m) ix = some c) :
    ∃ t, Run (Step L) (Table.empty, s₀) [.scroll (.appeared ix c)] (t, s₀) ∧
      t.shown ix = some c :=
  ⟨_, Run.nil.cons (.scroll (.appeared rfl hrow (dequeues_make _ m) hc (List.Sublist.refl _))),
    Function.update_self _ _ _⟩

/-- A row on screen can be touched. -/
theorem exists_touched {T₀ : Table γ × σ} {t : Table γ} {s s' : σ} {c' : γ} {e : ε}
    (h : Run (Step L) T₀ trace (t, s)) (hc : t.shown ix = some c)
    (htouch : L.touch s c e = some (c', s')) :
    ∃ t', Run (Step L) T₀ (.touched ix e :: trace) (t', s') ∧ t'.shown ix = some c' :=
  ⟨_, h.cons (.touched hc htouch), Function.update_self _ _ _⟩

/-- A row on screen can go, and come back in the cell it has given up. -/
theorem exists_back {T₀ : Table γ × σ} {t : Table γ} {s : σ} {c' : γ} {d : ξ → γ}
    (h : Run (Step L) T₀ trace (t, s)) (hc : t.shown ix = some c)
    (hrow : (L.dataSource s).HasRow ix) (hd : ∀ x, L.registry.identifier c = some x ∧
      d x = L.registry.prepareForReuse c) (hc' : (L.dataSource s).cellForRow d ix = some c') :
    ∃ t', Run (Step L) T₀ (.scroll (.appeared ix c') :: .scroll (.disappeared ix) :: trace)
        (t', s) ∧
      t'.shown ix = some c' := by
  have hgone := h.cons (.scroll (.disappeared hc))
  have hdequeue : Dequeues L.registry (c :: t.pool) d := fun x =>
    Or.inr ⟨c, List.mem_cons_self, hd x⟩
  have hback := hgone.cons (.scroll (.appeared (Function.update_self _ _ _) hrow hdequeue hc'
    (List.Sublist.refl _)))
  exact ⟨_, hback, Function.update_self _ _ _⟩

/-- **The rule for rows on screen**: what `cellForRow` establishes and no touch destroys holds of
every row shown. -/
theorem shown_invariant {P : IndexPath → γ → Prop} {s₀ : σ}
    (hcell : ∀ s pool d ix c, Dequeues L.registry pool d →
      (L.dataSource s).cellForRow d ix = some c → P ix c)
    (htouch : ∀ s ix c e c' s', P ix c → L.touch s c e = some (c', s') → P ix c')
    (h : Run (Step L) (Table.empty, s₀) trace T) : ∀ ix c, T.1.shown ix = some c → P ix c := by
  induction h with
  | nil => exact fun _ _ hc => nomatch hc
  | @cons trace T e T' _ hs ih =>
    intro ix c hc
    obtain ⟨hrow, hothers⟩ := shown_step hs
    by_cases hix : ix = e.row
    · subst hix
      rw [hc] at hrow
      cases hrow with
      | appeared _ hd hcell' => exact hcell _ _ _ _ _ hd hcell'
      | touched hshown htouch' => exact htouch _ _ _ _ _ _ (ih _ _ hshown) htouch'
    · exact ih ix c ((hothers ix hix).symm.trans hc)

end LiveTable
