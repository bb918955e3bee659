import InstaGLAM.Machinery.Frame
import InstaGLAM.Machinery.LayoutPass
import Mathlib.Algebra.Order.Field.Rat
import Mathlib.Tactic.Linarith
import Mathlib.Tactic.Ring

/-!
# Controllers/ScreenLayout — three screens that are laid out again

    viewDidLoad g₀ ──viewDidLayoutSubviews g₁──▸ … ──viewDidLayoutSubviews gₙ──▸

The frames of all three screens are computed in every pass, with two exceptions.  The login screen
places the two images of its header while the header has one subview, and the pass that does so adds
the second: the images keep the geometry of the first pass.  The grids of the other two screens get
their item size in `viewDidLoad`, so the items keep the width the screen was loaded in.
-/

namespace InstaGLAM

open Frame LayoutPass

/-- What a screen is laid out in: the frame of its view, and the top of the safe area. -/
structure ViewGeometry where
  frame : Rect ℚ
  safeAreaTop : ℚ
  deriving DecidableEq

namespace Constants

def textFieldsHeight : ℚ := 52

def buttonHeight : ℚ := 50

end Constants

/-! ## The login screen -/

/-- The frames of the login screen; the subviews of the header are the background image and, from
the first pass on, the logo. -/
structure LoginLayout where
  headerView : Rect ℚ
  headerSubviews : List (Rect ℚ)
  userNameOrEmailTextField : Rect ℚ
  passwordTextField : Rect ℚ
  loginBtn : Rect ℚ
  createAccountBtn : Rect ℚ
  termsBtn : Rect ℚ
  privacyBtn : Rect ℚ
  deriving DecidableEq

namespace LoginLayout

/-- `CGRect.zero` -/
def zero : Rect ℚ := ⟨0, 0, 0, 0⟩

/-- `viewDidLoad()`, with the header's background image in a frame of its own size. -/
def viewDidLoad (gradient : Rect ℚ) : LoginLayout :=
  ⟨zero, [gradient], zero, zero, zero, zero, zero, zero⟩

/-- `configureHeaderView()` -/
def configureHeaderView (l : LoginLayout) (safeAreaTop : ℚ) : LoginLayout :=
  match l.headerSubviews with
  | [_] =>
    { l with headerSubviews :=
        [l.headerView.bounds,
          ⟨l.headerView.width / 4, safeAreaTop, l.headerView.width / 2,
            l.headerView.height - safeAreaTop⟩] }
  | _ => l

/-- `viewDidLayoutSubviews()` -/
def viewDidLayoutSubviews (l : LoginLayout) (view : ViewGeometry) : LoginLayout :=
  let width := view.frame.width
  let headerView : Rect ℚ := ⟨0, 0, width, view.frame.height / 3⟩
  let userNameOrEmailTextField : Rect ℚ :=
    ⟨25, headerView.bottom + 40, width - 50, Constants.textFieldsHeight⟩
  let passwordTextField : Rect ℚ :=
    ⟨25, userNameOrEmailTextField.bottom + 20, width - 50, Constants.textFieldsHeight⟩
  let loginBtn : Rect ℚ := ⟨25, passwordTextField.bottom + 20, width - 50, Constants.buttonHeight⟩
  let createAccountBtn : Rect ℚ := ⟨25, loginBtn.bottom + 10, width - 50, Constants.buttonHeight⟩
  let termsBtn : Rect ℚ := ⟨25, view.frame.bottom - 100, width - 50, Constants.buttonHeight⟩
  let privacyBtn : Rect ℚ := ⟨25, view.frame.bottom - 70, width - 50, Constants.buttonHeight⟩
  configureHeaderView
    { l with headerView, userNameOrEmailTextField, passwordTextField, loginBtn, createAccountBtn
             termsBtn, privacyBtn } view.safeAreaTop

/-- The login screen. -/
def screen (gradient : Rect ℚ) : Screen ViewGeometry LoginLayout :=
  ⟨fun _ => viewDidLoad gradient, viewDidLayoutSubviews⟩

/-- The header's images are still to be placed. -/
def Todo (l : LoginLayout) : Prop := l.headerSubviews.length = 1

/-- Where a pass in `view` places them. -/
def headerImages (view : ViewGeometry) : List (Rect ℚ) :=
  [⟨0, 0, view.frame.width, view.frame.height / 3⟩,
    ⟨view.frame.width / 4, view.safeAreaTop, view.frame.width / 2,
      view.frame.height / 3 - view.safeAreaTop⟩]

/-- The rest of the screen. -/
def others (l : LoginLayout) : LoginLayout := { l with headerSubviews := [] }

variable {l l' : LoginLayout}

theorem eq_of_others (h : l.others = l'.others) (hs : l.headerSubviews = l'.headerSubviews) :
    l = l' := by
  cases l
  cases l'
  simp only [others, mk.injEq, true_and] at h hs ⊢
  exact ⟨h.1, hs, h.2⟩

theorem others_configureHeaderView (l : LoginLayout) (safeAreaTop : ℚ) :
    (l.configureHeaderView safeAreaTop).others = l.others := by
  rw [configureHeaderView]
  split <;> rfl

/-- All but the header's images is computed anew. -/
theorem others_viewDidLayoutSubviews (l : LoginLayout) (view : ViewGeometry) :
    (l.viewDidLayoutSubviews view).others
      = ((viewDidLoad zero).viewDidLayoutSubviews view).others := by
  simp only [viewDidLayoutSubviews, others_configureHeaderView]
  rfl

/-- The pass that finds one subview places it, and adds the other. -/
theorem headerSubviews_of_todo (h : l.Todo) (view : ViewGeometry) :
    (l.viewDidLayoutSubviews view).headerSubviews = headerImages view := by
  obtain ⟨image, himage⟩ := List.length_eq_one_iff.1 h
  simp only [viewDidLayoutSubviews, configureHeaderView, himage]
  rfl

/-- A later pass leaves both alone. -/
theorem headerSubviews_of_not_todo (h : ¬ l.Todo) (view : ViewGeometry) :
    (l.viewDidLayoutSubviews view).headerSubviews = l.headerSubviews := by
  rw [Todo] at h
  match himages : l.headerSubviews with
  | [] => simp only [viewDidLayoutSubviews, configureHeaderView, himages]
  | [_] => exact absurd (congrArg List.length himages) h
  | _ :: _ :: _ => simp only [viewDidLayoutSubviews, configureHeaderView, himages]

theorem not_todo_viewDidLayoutSubviews (l : LoginLayout) (view : ViewGeometry) :
    ¬ (l.viewDidLayoutSubviews view).Todo := by
  by_cases h : l.Todo
  · rw [Todo, headerSubviews_of_todo h]
    exact Nat.succ_ne_self 1
  · rwa [Todo, headerSubviews_of_not_todo h]

variable {gradient : Rect ℚ} {g₀ last view view' : ViewGeometry} {earlier : List ViewGeometry}

/-- **The header's images are those of the first pass.** -/
theorem headerSubviews_after (gradient : Rect ℚ) (g₀ last : ViewGeometry)
    (earlier : List ViewGeometry) :
    ((screen gradient).after g₀ (last :: earlier)).headerSubviews
      = headerImages (earlier.getLastD last) :=
  part_of_first (S := screen gradient) (P := Todo) (fun _ => rfl)
    (fun _ g h => headerSubviews_of_todo h g) (fun _ g h => headerSubviews_of_not_todo h g)
    not_todo_viewDidLayoutSubviews g₀ last earlier

/-- Two geometries place the images alike. -/
def SameHeader (view view' : ViewGeometry) : Prop :=
  view.frame.width = view'.frame.width ∧ view.frame.height = view'.frame.height ∧
    view.safeAreaTop = view'.safeAreaTop

theorem headerImages_eq_iff : headerImages view = headerImages view' ↔ SameHeader view view' := by
  simp only [headerImages, SameHeader, List.cons.injEq, Rect.mk.injEq, true_and, and_true]
  constructor
  · rintro ⟨⟨hw, hh⟩, -, hs, -⟩
    exact ⟨hw, by linarith, hs⟩
  · rintro ⟨hw, hh, hs⟩
    rw [hw, hh, hs]
    exact ⟨⟨rfl, rfl⟩, rfl, rfl, rfl, rfl⟩

/-- **The login screen is up to date** when the first pass was in the size of the last. -/
theorem upToDate_iff : (screen gradient).UpToDate g₀ last earlier ↔
    SameHeader (earlier.getLastD last) last := by
  rw [← headerImages_eq_iff, ← headerSubviews_after gradient g₀]
  have hfresh : ((screen gradient).after last [last]).headerSubviews = headerImages last :=
    headerSubviews_after gradient last last []
  have hothers := part_of_recomputed (S := screen gradient) others_viewDidLayoutSubviews
  rw [← hfresh]
  constructor
  · exact congrArg headerSubviews
  · exact eq_of_others ((hothers g₀ last earlier).trans (hothers last last []).symm)

end LoginLayout

/-! ## The two grids -/

/-- The item sizes of the explore screen's two collection views, and its frames. -/
structure ExploreLayout where
  itemSize : ℚ × ℚ
  tabbedItemSize : ℚ × ℚ
  collectionView : Rect ℚ
  dimmedView : Rect ℚ
  tabbedSearchCollectionView : Rect ℚ
  deriving DecidableEq

namespace ExploreLayout

/-- `viewDidLoad()`: `setupCollectionView` and `setupTabbedCollectionView`. -/
def viewDidLoad (view : ViewGeometry) : ExploreLayout where
  itemSize := ((view.frame.width - 4) / 3, (view.frame.width - 4) / 3)
  tabbedItemSize := (view.frame.width / 3, 52)
  collectionView := ⟨0, 0, 0, 0⟩
  dimmedView := ⟨0, 0, 0, 0⟩
  tabbedSearchCollectionView := ⟨0, 0, 0, 0⟩

/-- `viewDidLayoutSubviews()` -/
def viewDidLayoutSubviews (l : ExploreLayout) (view : ViewGeometry) : ExploreLayout :=
  { l with
    collectionView := view.frame.bounds
    dimmedView := view.frame.bounds
    tabbedSearchCollectionView := ⟨0, view.safeAreaTop, view.frame.width, 72⟩ }

/-- The explore screen. -/
def screen : Screen ViewGeometry ExploreLayout := ⟨viewDidLoad, viewDidLayoutSubviews⟩

end ExploreLayout

/-- The item size of the profile's grid, and the frame of the grid. -/
structure ProfileLayout where
  itemSize : ℚ × ℚ
  collectionView : Rect ℚ
  deriving DecidableEq

namespace ProfileLayout

/-- `viewDidLoad()`: `setupCollectionView`. -/
def viewDidLoad (view : ViewGeometry) : ProfileLayout where
  itemSize := ((view.frame.width - 4) / 3, (view.frame.width - 4) / 3)
  collectionView := ⟨0, 0, 0, 0⟩

/-- `viewDidLayoutSubviews()` -/
def viewDidLayoutSubviews (l : ProfileLayout) (view : ViewGeometry) : ProfileLayout :=
  { l with collectionView := view.frame.bounds }

/-- The profile screen. -/
def screen : Screen ViewGeometry ProfileLayout := ⟨viewDidLoad, viewDidLayoutSubviews⟩

end ProfileLayout

section Grids

variable {g₀ last : ViewGeometry} {earlier : List ViewGeometry}

theorem itemSize_eq_iff {w w' : ℚ} :
    (((w - 4) / 3, (w - 4) / 3) : ℚ × ℚ) = ((w' - 4) / 3, (w' - 4) / 3) ↔ w = w' := by
  constructor
  · intro h
    have hfst := (Prod.mk.inj h).1
    linarith
  · rintro rfl
    rfl

/-- **The explore screen is up to date** when it was loaded in the width of the last pass. -/
theorem ExploreLayout.upToDate_iff :
    ExploreLayout.screen.UpToDate g₀ last earlier ↔ g₀.frame.width = last.frame.width := by
  have hcongr : ∀ (l l' : ExploreLayout) (view : ViewGeometry),
      (l.itemSize, l.tabbedItemSize) = (l'.itemSize, l'.tabbedItemSize) →
        l.viewDidLayoutSubviews view = l'.viewDidLayoutSubviews view := fun l l' view h => by
    obtain ⟨hsize, htabbed⟩ := Prod.mk.inj h
    rw [viewDidLayoutSubviews, viewDidLayoutSubviews, hsize, htabbed]
  rw [upToDate_iff_of_loaded (S := screen) (fun _ _ => rfl) hcongr]
  constructor
  · exact fun h => itemSize_eq_iff.1 (Prod.mk.inj h).1
  · intro h
    simp only [screen, viewDidLoad, h]

/-- **The profile is up to date** in the same case. -/
theorem ProfileLayout.upToDate_iff :
    ProfileLayout.screen.UpToDate g₀ last earlier ↔ g₀.frame.width = last.frame.width := by
  have hcongr : ∀ (l l' : ProfileLayout) (view : ViewGeometry), l.itemSize = l'.itemSize →
      l.viewDidLayoutSubviews view = l'.viewDidLayoutSubviews view := fun l l' view h => by
    rw [viewDidLayoutSubviews, viewDidLayoutSubviews, h]
  rw [upToDate_iff_of_loaded (S := screen) (fun _ _ => rfl) hcongr]
  exact itemSize_eq_iff

end Grids

/-! ## All three -/

/-- **Which screens are up to date** after a load in `g₀` and passes that end with `last`. -/
theorem screens_upToDate_iff (gradient : Rect ℚ) (g₀ last : ViewGeometry)
    (earlier : List ViewGeometry) :
    ((LoginLayout.screen gradient).UpToDate g₀ last earlier ↔
        LoginLayout.SameHeader (earlier.getLastD last) last) ∧
      (ExploreLayout.screen.UpToDate g₀ last earlier ↔ g₀.frame.width = last.frame.width) ∧
      (ProfileLayout.screen.UpToDate g₀ last earlier ↔ g₀.frame.width = last.frame.width) :=
  ⟨LoginLayout.upToDate_iff, ExploreLayout.upToDate_iff, ProfileLayout.upToDate_iff⟩

/-- Loaded and laid out upright, then turned on the side: none of the three is up to date. -/
theorem rotated_outOfDate :
    let upright : ViewGeometry := ⟨⟨0, 0, 375, 812⟩, 44⟩
    let onSide : ViewGeometry := ⟨⟨0, 0, 812, 375⟩, 0⟩
    ¬ (LoginLayout.screen ⟨0, 0, 414, 300⟩).UpToDate upright onSide [upright] ∧
      ¬ ExploreLayout.screen.UpToDate upright onSide [upright] ∧
      ¬ ProfileLayout.screen.UpToDate upright onSide [upright] := by
  intro upright onSide
  have hwidth : upright.frame.width ≠ onSide.frame.width := by decide +kernel
  exact ⟨mt LoginLayout.upToDate_iff.1 fun h => hwidth h.1, mt ExploreLayout.upToDate_iff.1 hwidth,
    mt ProfileLayout.upToDate_iff.1 hwidth⟩

end InstaGLAM
