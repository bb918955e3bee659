import InstaGLAM.Controllers.ExploreViewController
import InstaGLAM.Controllers.ScreenLayout
import InstaGLAM.Machinery.HitTest

/-!
# Controllers/ExploreTouches — what a touch on the explore screen goes to

    collectionView ◂── tabbedSearchCollectionView ◂── dimmedView ◂── touch

The dimmed view is added last, after the tabbed view, and covers all of the screen.  So while the
overlay is what the last action asked for, a touch during a search goes to the dimmed view, which
cancels the search, and any other to the grid; the tabbed view, shown or not, gets none
(`explore_touches`).
-/

namespace InstaGLAM

open Frame Trace

/-- The subviews of the explore screen. -/
inductive ExploreSubview where
  | collectionView | tabbedSearchCollectionView | dimmedView
  deriving DecidableEq

namespace ExploreSubview

/-- The order in which `viewDidLoad()` adds them. -/
def added : List ExploreSubview := [collectionView, tabbedSearchCollectionView, dimmedView]

/-- Its frame in the layout. -/
def frame (l : ExploreLayout) : ExploreSubview → Rect ℚ
  | collectionView => l.collectionView
  | tabbedSearchCollectionView => l.tabbedSearchCollectionView
  | dimmedView => l.dimmedView

/-- It takes touches: it is not hidden, and not transparent. -/
def takesTouches (s : Overlay) : ExploreSubview → Bool
  | collectionView => true
  | tabbedSearchCollectionView => !s.tabbedSearchHidden
  | dimmedView => !s.dimmedViewHidden && decide (1 / 100 < s.dimmedViewAlpha)

variable {s : Overlay} {g₀ last : ViewGeometry} {earlier : List ViewGeometry} {p : ℚ × ℚ}

/-- Where a touch on the screen goes. -/
def touched (s : Overlay) (last : ViewGeometry) (l : ExploreLayout) (p : ℚ × ℚ) :
    Option ExploreSubview :=
  Frame.touched last.frame.bounds (frame l) (added.filter (takesTouches s)) p

theorem touched_eq (hp : last.frame.bounds.Contains p) :
    touched s last (ExploreLayout.screen.after g₀ (last :: earlier)) p =
      some (if takesTouches s dimmedView then dimmedView
        else if takesTouches s tabbedSearchCollectionView ∧
          (⟨0, last.safeAreaTop, last.frame.width, 72⟩ : Rect ℚ).Contains p then
            tabbedSearchCollectionView
        else collectionView) := by
  rw [touched, Frame.touched, if_pos hp]
  have hgrid :
      (frame (ExploreLayout.screen.after g₀ (last :: earlier)) collectionView).Contains p :=
    hp
  have hdimmed : (frame (ExploreLayout.screen.after g₀ (last :: earlier)) dimmedView).Contains p :=
    hp
  have htabbed : frame (ExploreLayout.screen.after g₀ (last :: earlier))
      tabbedSearchCollectionView = ⟨0, last.safeAreaTop, last.frame.width, 72⟩ := rfl
  have hall : takesTouches s collectionView = true := rfl
  cases hd : takesTouches s dimmedView <;> cases ht : takesTouches s tabbedSearchCollectionView <;>
    simp [added, hd, ht, hall, hitTest, hgrid, hdimmed, htabbed]
  split_ifs <;> rfl

/-! ## In terms of the actions -/

variable {trace : List OverlayEvent}

/-- A search is going on: the last action began one. -/
def Searching (trace : List OverlayEvent) : Prop :=
  ∃ a, lastAction trace = some (.begin, a)

/-- Without an action nothing has happened. -/
theorem loaded_of_noAction (h : Run Overlay.Step Overlay.loaded trace s)
    (hnone : lastAction trace = none) : s = Overlay.loaded := by
  induction h with
  | nil => rfl
  | cons _ hs ih =>
    cases hs with
    | action => exact absurd hnone.symm (Option.some_ne_none _).symm
    | completed ha =>
      rw [ih hnone] at ha
      exact absurd ha List.not_mem_nil

/-- The dimmed view is not transparent while it is there. -/
theorem alpha_of_shown (h : Run Overlay.Step Overlay.loaded trace s) :
    s.dimmedViewHidden = false → s.dimmedViewAlpha = 2 / 5 := by
  refine h.invariant (I := fun _ s => s.dimmedViewHidden = false → s.dimmedViewAlpha = 2 / 5)
    (fun hshown => absurd hshown (by decide)) ?_
  rintro trace s e s' ih hs hshown
  cases hs with
  | @action a =>
    cases a with
    | begin => rfl
    | cancel => exact absurd hshown Bool.true_eq_false.mp
    | submit text =>
      rw [Overlay.act, Overlay.searchBarSearchButtonClicked_eq] at hshown
      exact absurd hshown Bool.true_eq_false.mp
  | @completed a done ha =>
    rcases a with ⟨id, _ | _⟩
    · cases done <;> exact ih hshown
    · exact absurd hshown Bool.true_eq_false.mp

/-- **The dimmed view takes touches** exactly during a search that nothing has undone. -/
theorem dimmedView_iff (h : Run Overlay.Step Overlay.loaded trace s) :
    takesTouches s dimmedView = true ↔ Searching trace ∧ OnTime trace := by
  have hshown : takesTouches s dimmedView = true ↔ s.dimmedViewHidden = false := by
    rw [takesTouches]
    constructor
    · intro htakes
      simpa using (Bool.and_eq_true_iff.1 htakes).1
    · intro hhidden
      rw [hhidden, alpha_of_shown h hhidden]
      norm_num
  have htracks := (Overlay.tracks_of_run h).2
  rw [Overlay.Tracks] at htracks
  rw [hshown, ← settled_iff_onTime h, Settled, Searching]
  rcases hlast : lastAction trace with - | ⟨_ | _ | _, anim⟩
  · rw [loaded_of_noAction h hlast]
    simp [Overlay.loaded]
  all_goals
    rw [hlast] at htracks
    obtain ⟨hcancel, hdimmed, htabbed⟩ := htracks
  · exact ⟨fun hhidden => ⟨⟨anim, rfl⟩, hcancel, hhidden, htabbed⟩, fun hsettled => hsettled.2.2.1⟩
  · simp [hdimmed]
  · simp [hdimmed]

/-- **The tabbed view is hidden** when no search is going on and nothing has undone the last
action. -/
theorem tabbed_hidden (h : Run Overlay.Step Overlay.loaded trace s) (hsearch : ¬ Searching trace)
    (htime : OnTime trace) : takesTouches s tabbedSearchCollectionView = false := by
  have hsettled := (settled_iff_onTime h).2 htime
  rw [Settled] at hsettled
  rw [takesTouches]
  rcases hlast : lastAction trace with - | ⟨_ | _ | _, anim⟩
  · rw [loaded_of_noAction h hlast]
    rfl
  · exact absurd ⟨anim, hlast⟩ hsearch
  all_goals
    rw [hlast] at hsettled
    rw [hsettled.2.2]
    rfl

end ExploreSubview

open ExploreSubview in
/-- **What touches do on the explore screen**, after any passes and in every run: during a search
they go to the dimmed view, unless a late fade has undone the search; with nothing undone they go to
the grid otherwise, and none goes to the tabbed view.  (While a fade is pending UIKit keeps touches
from the view it animates, which is not modelled.) -/
theorem explore_touches {trace : List OverlayEvent} {s : Overlay}
    (h : Run Overlay.Step Overlay.loaded trace s) (g₀ last : ViewGeometry)
    (earlier : List ViewGeometry) {p : ℚ × ℚ} (hp : last.frame.bounds.Contains p) :
    let touch := touched s last (ExploreLayout.screen.after g₀ (last :: earlier)) p
    (touch = some dimmedView ↔ Searching trace ∧ OnTime trace) ∧
    (¬ Searching trace → OnTime trace → touch = some collectionView) ∧
    (touch = some tabbedSearchCollectionView → ¬ OnTime trace) := by
  intro touch
  have htouch : touch = _ := touched_eq hp
  have hdimmed := dimmedView_iff h
  have hgrid : ¬ Searching trace → OnTime trace → touch = some collectionView := by
    intro hsearch htime
    rw [htouch, if_neg fun hd => hsearch (hdimmed.1 hd).1,
      if_neg fun ht => absurd ht.1 (by simp [tabbed_hidden h hsearch htime])]
  have hcancels : touch = some dimmedView ↔ Searching trace ∧ OnTime trace := by
    rw [htouch, ← hdimmed]
    split_ifs <;> simp_all
  refine ⟨hcancels, hgrid, fun htabbed htime => ?_⟩
  by_cases hsearch : Searching trace
  · exact absurd ((hcancels.2 ⟨hsearch, htime⟩).symm.trans htabbed) (by decide)
  · exact absurd ((hgrid hsearch htime).symm.trans htabbed) (by decide)

/-- With a search on and the tabbed view shown, a touch on it goes to the dimmed view. -/
theorem explore_touches_searching : ∃ s, Run Overlay.Step Overlay.loaded
    [.completed ⟨0, .fadeIn⟩ true, .action .begin] s ∧ s.tabbedSearchHidden = false ∧
      ExploreSubview.touched s ⟨⟨0, 0, 375, 812⟩, 44⟩ (ExploreLayout.screen.after
        ⟨⟨0, 0, 375, 812⟩, 44⟩ [⟨⟨0, 0, 375, 812⟩, 44⟩]) (100, 50) = some .dimmedView := by
  have hstart : Run Overlay.Step Overlay.loaded [] Overlay.loaded := .nil
  have hrun := (hstart.cons (.action (a := .begin))).cons
    (.completed (a := ⟨0, .fadeIn⟩) (d := true) (by decide))
  refine ⟨_, hrun, rfl, ((explore_touches hrun ⟨⟨0, 0, 375, 812⟩, 44⟩ ⟨⟨0, 0, 375, 812⟩, 44⟩ []
    (by decide +kernel)).1).2 ⟨⟨_, rfl⟩, ?_⟩⟩
  simp [OnTime, lastAction, sinceLastAction, SearchAction.undoneBy]

end InstaGLAM
