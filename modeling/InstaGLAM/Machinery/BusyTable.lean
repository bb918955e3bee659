import InstaGLAM.Machinery.LiveTable

/-!
# Machinery/BusyTable — a table whose cells change by themselves

    make ──┐
           ├──▸ dequeued (B) ──cellForRow──▸ shown (P ix) ──scrolled away──▸ pooled (Q) ──┐
    prepareForReuse ◂───────────────────────────────────────────────────────────────────┘

The table of `Machinery/LiveTable` with one more kind of event: something happens to a cell by
itself, on screen or in the pool, such as a load that completes.  `Keeps` asks for what each arrow
keeps, and `Keeps.run` says that every run keeps it.  If the cells on screen tell the controller
what their rows would, a run has told it about the rows touched, in order (`log_of_run`).
-/

namespace BusyTable

open TableView LiveTable Trace

variable {μ ξ γ σ ε δ : Type*}

/-- A live table, and what can happen to a cell. -/
structure Busy (μ ξ γ σ ε δ : Type*) extends Live μ ξ γ σ ε where
  happen : γ → δ → γ

/-- What happens on screen and in the pool. -/
inductive Event (γ ε δ : Type*) where
  | live (e : LiveTable.Event γ ε)
  | shown (ix : IndexPath) (x : δ)
  | pooled (n : ℕ) (x : δ)

/-- One step of a busy table. -/
inductive Step (L : Busy μ ξ γ σ ε δ) : Table γ × σ → Event γ ε δ → Table γ × σ → Prop
  | live {T e T'} : LiveTable.Step L.toLive T e T' → Step L T (.live e) T'
  | shown {t s ix c x} : t.shown ix = some c →
      Step L (t, s) (.shown ix x) (⟨Function.update t.shown ix (some (L.happen c x)), t.pool⟩, s)
  | pooled {t s n c x} : t.pool[n]? = some c →
      Step L (t, s) (.pooled n x) (⟨t.shown, t.pool.set n (L.happen c x)⟩, s)

/-- What holds of the cells dequeued, shown and pooled. -/
structure Keeps (L : Busy μ ξ γ σ ε δ) (B : ξ → γ → Prop) (P : IndexPath → γ → Prop)
    (Q : γ → Prop) : Prop where
  made : ∀ m x, B x (L.registry.make m x)
  prepared : ∀ c x, Q c → L.registry.identifier c = some x → B x (L.registry.prepareForReuse c)
  cell : ∀ s d ix c, (∀ x, B x (d x)) → (L.dataSource s).cellForRow d ix = some c → P ix c
  gone : ∀ ix c, P ix c → Q c
  touched : ∀ s ix c e c' s', P ix c → L.touch s c e = some (c', s') → P ix c'
  shown : ∀ ix c x, P ix c → P ix (L.happen c x)
  pooled : ∀ c x, Q c → Q (L.happen c x)

/-- The cells of a table, on screen and in the pool. -/
structure Fits (P : IndexPath → γ → Prop) (Q : γ → Prop) (t : Table γ) : Prop where
  shown : ∀ ix c, t.shown ix = some c → P ix c
  pool : ∀ c ∈ t.pool, Q c

variable {L : Busy μ ξ γ σ ε δ} {B : ξ → γ → Prop} {P : IndexPath → γ → Prop} {Q : γ → Prop}
  {T T' : Table γ × σ} {t : Table γ} {e : Event γ ε δ} {trace : List (Event γ ε δ)} {s₀ : σ}

theorem fits_empty : Fits P Q Table.empty := ⟨fun _ _ hc => (nomatch hc), fun _ hc => nomatch hc⟩

/-- A cell on screen is replaced by one that fits its row. -/
theorem Fits.update (h : Fits P Q t) {ix : IndexPath} {c : γ} (hc : P ix c) :
    Fits P Q ⟨Function.update t.shown ix (some c), t.pool⟩ := by
  refine ⟨fun ix' c' hc' => ?_, h.pool⟩
  by_cases hix : ix' = ix
  · subst hix
    obtain rfl : c = c' :=
      Option.some.inj ((Function.update_self ix' (some c) t.shown).symm.trans hc')
    exact hc
  · exact h.shown ix' c' ((Function.update_of_ne hix (some c) t.shown).symm.trans hc')

/-- What scrolling keeps. -/
theorem Keeps.scroll (h : Keeps L B P Q) (hfits : Fits P Q t) {s : σ} {e : Scroll γ} {t' : Table γ}
    (hs : TableView.Step L.registry (L.dataSource s) t e t') : Fits P Q t' := by
  cases hs with
  | @appeared ix d c pool hnone hrow hd hcell hsub =>
    have hdequeued : ∀ x, B x (d x) := fun x => by
      rcases hd x with ⟨m, hm⟩ | ⟨c, hc, hid, hprepared⟩
      · rw [hm]
        exact h.made m x
      · rw [hprepared]
        exact h.prepared c x (hfits.pool c hc) hid
    have hrest : Fits P Q ⟨t.shown, pool⟩ :=
      ⟨hfits.shown, fun c hc => hfits.pool c (hsub.subset hc)⟩
    exact hrest.update (h.cell _ _ _ _ hdequeued hcell)
  | @disappeared ix c hshown =>
    refine ⟨fun ix' c' hc' => ?_, fun c' hc' => ?_⟩
    · by_cases hix : ix' = ix
      · subst hix
        exact nomatch (Function.update_self ix' none t.shown).symm.trans hc'
      · exact hfits.shown ix' c' ((Function.update_of_ne hix none t.shown).symm.trans hc')
    · rcases List.mem_cons.1 hc' with rfl | hold
      · exact h.gone ix _ (hfits.shown ix _ hshown)
      · exact hfits.pool c' hold

/-- **What one step keeps.** -/
theorem Keeps.step (h : Keeps L B P Q) (hT : Fits P Q T.1) (hs : Step L T e T') :
    Fits P Q T'.1 := by
  cases hs with
  | shown hshown => exact hT.update (h.shown _ _ _ (hT.shown _ _ hshown))
  | pooled hpool =>
    refine ⟨hT.shown, fun c hc => ?_⟩
    rcases List.mem_or_eq_of_mem_set hc with hold | rfl
    · exact hT.pool c hold
    · exact h.pooled _ _ (hT.pool _ (List.mem_of_getElem? hpool))
  | live hs =>
    cases hs with
    | touched hshown htouch => exact hT.update (h.touched _ _ _ _ _ _ (hT.shown _ _ hshown) htouch)
    | scroll hs => exact h.scroll hT hs

/-- **The rule for busy tables.** -/
theorem Keeps.run (h : Keeps L B P Q) (hrun : Run (Step L) (Table.empty, s₀) trace T) :
    Fits P Q T.1 :=
  hrun.invariant (I := fun _ T => Fits P Q T.1) fits_empty fun _ _ _ _ hT hs => h.step hT hs

/-! ## What the controller is told -/

/-- What the touches of a run say, if a touch of a row says what `say` has for it. -/
def said {ω : Type*} (say : IndexPath → ε → Option ω) : Event γ ε δ → Option ω
  | .live (.touched ix e) => say ix e
  | .live (.scroll _) | .shown _ _ | .pooled _ _ => none

/-- **A cell does not know its row, but it speaks for it**: if a touch of a cell that fits its row
adds to a log what `say` has for the row, the log of a run is of the rows touched, in order,
whatever has been scrolled and recycled between. -/
theorem log_of_run {ω : Type*} (h : Keeps L B P Q) (say : IndexPath → ε → Option ω)
    (log : σ → List ω)
    (hsay : ∀ s ix c e c' s', P ix c → L.touch s c e = some (c', s') →
      log s' = (say ix e).toList ++ log s)
    (hrun : Run (Step L) (Table.empty, s₀) trace T) :
    log T.2 = trace.filterMap (said say) ++ log s₀ := by
  induction hrun with
  | nil => rfl
  | cons hrun hs ih =>
    cases hs with
    | shown | pooled => exact ih
    | live hs =>
      cases hs with
      | scroll => exact ih
      | @touched _ _ ix _ e _ _ hshown htouch =>
        rw [hsay _ _ _ _ _ _ ((h.run hrun).shown _ _ hshown) htouch, ih, List.filterMap_cons, said]
        cases say ix e <;> rfl

/-! ## Runs -/

/-- The first row to come on screen can be any row, in a new cell. -/
theorem exists_appeared (L : Busy μ ξ γ σ ε δ) (s₀ : σ) {m : μ} {ix : IndexPath} {c : γ}
    (hrow : (L.dataSource s₀).HasRow ix)
    (hc : (L.dataSource s₀).cellForRow (L.registry.make m) ix = some c) :
    ∃ t, Run (Step L) (Table.empty, s₀) [.live (.scroll (.appeared ix c))] (t, s₀) ∧
      t.shown ix = some c :=
  ⟨_, Run.nil.cons (.live (.scroll
    (.appeared rfl hrow (dequeues_make _ m) hc (List.Sublist.refl _)))), Function.update_self _ _ _⟩

/-- A row on screen can be touched. -/
theorem exists_touched {t : Table γ} {s s' : σ} {ix : IndexPath} {c c' : γ} {e : ε}
    (h : Run (Step L) (Table.empty, s₀) trace (t, s)) (hc : t.shown ix = some c)
    (htouch : L.touch s c e = some (c', s')) :
    ∃ t', Run (Step L) (Table.empty, s₀) (.live (.touched ix e) :: trace) (t', s') ∧
      t'.shown ix = some c' :=
  ⟨_, h.cons (.live (.touched hc htouch)), Function.update_self _ _ _⟩

end BusyTable
