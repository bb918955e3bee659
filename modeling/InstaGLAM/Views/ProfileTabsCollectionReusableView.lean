import InstaGLAM.Models.UserPost

/-!
# Views/ProfileTabsCollectionReusableView — the two tabs of a profile

    tap t ──▸ tint of both tabs, icon of t

A tap tints both tabs and fills the icon of the one tapped; nothing gives the other its outline
back.  So the tints tell the last tap and the icons all of them (`button_after`), and one tab is
selected as long as all taps are on it (`oneSelected_iff`).
-/

namespace InstaGLAM

inductive ProfileTab where
  | grid | tagged
  deriving DecidableEq

/-- A tab's button: its tint, and the system name of its icon. -/
structure TabButton where
  tintColor : UIColor
  backgroundImage : String
  deriving DecidableEq

structure ProfileTabsCollectionReusableView where
  gridButton : TabButton
  taggedButton : TabButton
  deriving DecidableEq

namespace ProfileTab

/-- The icon a tab starts with. -/
def outline : ProfileTab → String
  | grid => "square.grid.2x2"
  | tagged => "tag"

/-- The icon a tap gives it. -/
def filled : ProfileTab → String
  | grid => "square.grid.2x2.fill"
  | tagged => "tag.fill"

theorem outline_ne_filled (t : ProfileTab) : t.outline ≠ t.filled := by
  cases t <;> decide

end ProfileTab

namespace ProfileTabsCollectionReusableView

/-! ## The view -/

/-- `init(frame:)` -/
def made : ProfileTabsCollectionReusableView :=
  ⟨⟨.lightGray, "square.grid.2x2"⟩, ⟨.lightGray, "tag"⟩⟩

/-- `didTapGridButton()` -/
def didTapGridButton (v : ProfileTabsCollectionReusableView) :
    ProfileTabsCollectionReusableView where
  gridButton := ⟨.systemBlue, "square.grid.2x2.fill"⟩
  taggedButton := { v.taggedButton with tintColor := .systemGray }

/-- `didTapTaggedButton()` -/
def didTapTaggedButton (v : ProfileTabsCollectionReusableView) :
    ProfileTabsCollectionReusableView where
  gridButton := { v.gridButton with tintColor := .systemGray }
  taggedButton := ⟨.systemBlue, "tag.fill"⟩

/-- One tap. -/
def tap (v : ProfileTabsCollectionReusableView) : ProfileTab → ProfileTabsCollectionReusableView
  | .grid => v.didTapGridButton
  | .tagged => v.didTapTaggedButton

/-- The view after a sequence of taps, the latest first. -/
def after (taps : List ProfileTab) : ProfileTabsCollectionReusableView :=
  taps.foldr (fun t v => v.tap t) made

/-- The button of a tab. -/
def button (v : ProfileTabsCollectionReusableView) : ProfileTab → TabButton
  | .grid => v.gridButton
  | .tagged => v.taggedButton

/-- **One tab is selected**: it has the selected tint and the filled icon, the other the unselected
tint and its outline. -/
def OneSelected (v : ProfileTabsCollectionReusableView) (last : ProfileTab) : Prop :=
  ∀ t, v.button t =
    if t = last then ⟨.systemBlue, t.filled⟩ else ⟨.systemGray, t.outline⟩

/-! ## What a sequence of taps shows -/

variable {last t : ProfileTab} {taps : List ProfileTab}

/-- What one tap does to either button. -/
theorem button_tap (v : ProfileTabsCollectionReusableView) (last t : ProfileTab) :
    (v.tap last).button t =
      if t = last then ⟨.systemBlue, t.filled⟩
      else ⟨.systemGray, (v.button t).backgroundImage⟩ := by
  cases last <;> cases t <;> rfl

/-- A tab's icon is filled as soon as the tab has been tapped, and for good. -/
theorem backgroundImage_after (taps : List ProfileTab) (t : ProfileTab) :
    ((after taps).button t).backgroundImage = if t ∈ taps then t.filled else t.outline := by
  induction taps with
  | nil => cases t <;> rfl
  | cons last taps ih =>
    change ((after taps).tap last |>.button t).backgroundImage = _
    rw [button_tap]
    by_cases hlast : t = last
    · rw [if_pos hlast, if_pos (hlast ▸ List.mem_cons_self)]
    · simp only [List.mem_cons, hlast, false_or]
      exact ih

/-- **What either button shows**: the tint of the last tap, and the icon of all of them. -/
theorem button_after (last : ProfileTab) (taps : List ProfileTab) (t : ProfileTab) :
    (after (last :: taps)).button t =
      if t = last then ⟨.systemBlue, t.filled⟩
      else ⟨.systemGray, if t ∈ taps then t.filled else t.outline⟩ := by
  change ((after taps).tap last).button t = _
  rw [button_tap, backgroundImage_after]

/-- **When one tab is selected**: exactly when no other tab has been tapped before. -/
theorem oneSelected_iff (last : ProfileTab) (taps : List ProfileTab) :
    (after (last :: taps)).OneSelected last ↔ ∀ t ∈ taps, t = last := by
  refine forall_congr' fun t => ?_
  rw [button_after]
  by_cases hlast : t = last
  · simp [hlast]
  · by_cases hmem : t ∈ taps
    · simp [hlast, hmem, t.outline_ne_filled.symm]
    · simp [hlast, hmem]

/-- Grid, then tagged: both icons are filled. -/
theorem grid_stays_filled : ¬ (after [.tagged, .grid]).OneSelected .tagged := by
  intro h
  exact absurd (h .grid) (by decide)

end ProfileTabsCollectionReusableView

end InstaGLAM
