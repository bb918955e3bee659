import InstaGLAM.Machinery.Frame
import Mathlib.Algebra.Order.Field.Rat
import Mathlib.Tactic.Linarith
import Mathlib.Tactic.Ring

/-!
# Views/RowLayout — where four row cells put their subviews

    ┌─────────────────────────────────────────┐
    │ (photo)  labels …            [ button ] │  h
    └─────────────────────────────────────────┘
      3     h + 2                      w - 5

Each cell lays its subviews out in a content view of width `w` and height `h`, and gives its label
what the other views leave, less a margin.  The two notification cells take off 16 points and keep
the label clear; the follow cell takes off 8, which is 5 too few, so its labels run under the button
unless they have no width; the form takes 10 off where its field starts 15 to the right of the
label, and the field ends 5 points outside the row.  `keepsApart_iff_clear` has all four.
-/

namespace InstaGLAM

open Frame

variable {w h : ℚ}

/-! ## The frames -/

namespace UserFollowTableViewCell

def buttonWidth (w : ℚ) : ℚ := if 500 < w then 220 else w / 3

def profileImageFrame (h : ℚ) : Rect ℚ := ⟨3, 3, h - 6, h - 6⟩

def followButtonFrame (w : ℚ) : Rect ℚ := ⟨w - 5 - buttonWidth w, 35 / 2, buttonWidth w, 40⟩

def labelWidth (w h : ℚ) : ℚ := w - 8 - (profileImageFrame h).width - buttonWidth w

def nameLabelFrame (w h : ℚ) : Rect ℚ :=
  ⟨(profileImageFrame h).right + 5, 0, labelWidth w h, h / 2⟩

def usernameLabelFrame (w h : ℚ) : Rect ℚ :=
  ⟨(profileImageFrame h).right + 5, (nameLabelFrame w h).bottom, labelWidth w h, h / 2⟩

/-- `setupSubviews()`: the frames in the order of `addSubviews()`. -/
def setupSubviews (w h : ℚ) : List (Rect ℚ) :=
  [profileImageFrame h, nameLabelFrame w h, usernameLabelFrame w h, followButtonFrame w]

end UserFollowTableViewCell

namespace FormTableViewCell

def formLabelFrame (w h : ℚ) : Rect ℚ := ⟨10, 0, w / 3, h⟩

def formTextFieldFrame (w h : ℚ) : Rect ℚ :=
  ⟨(formLabelFrame w h).right + 5, 0, w - 10 - (formLabelFrame w h).width, h⟩

/-- `layoutSubviews()` -/
def layoutSubviews (w h : ℚ) : List (Rect ℚ) := [formLabelFrame w h, formTextFieldFrame w h]

end FormTableViewCell

namespace NotificationFollowEventTableViewCell

def profileImageFrame (h : ℚ) : Rect ℚ := ⟨3, 3, h - 6, h - 6⟩

def followButtonFrame (w h : ℚ) : Rect ℚ := ⟨w - 5 - 100, (h - 40) / 2, 100, 40⟩

def detailsLabelFrame (w h : ℚ) : Rect ℚ :=
  ⟨(profileImageFrame h).right + 5, 0, w - 100 - (profileImageFrame h).width - 16, h⟩

/-- `setupSubviews()` -/
def setupSubviews (w h : ℚ) : List (Rect ℚ) :=
  [profileImageFrame h, detailsLabelFrame w h, followButtonFrame w h]

end NotificationFollowEventTableViewCell

namespace NotificationLikeEventTableViewCell

def profileImageFrame (h : ℚ) : Rect ℚ := ⟨3, 3, h - 6, h - 6⟩

def postButtonFrame (w h : ℚ) : Rect ℚ := ⟨w - 5 - (h - 4), 2, h - 4, h - 4⟩

def detailsLabelFrame (w h : ℚ) : Rect ℚ :=
  ⟨(profileImageFrame h).right + 5, 0, w - (h - 4) - (profileImageFrame h).width - 16, h⟩

/-- `setupSubviews()` -/
def setupSubviews (w h : ℚ) : List (Rect ℚ) :=
  [profileImageFrame h, detailsLabelFrame w h, postButtonFrame w h]

end NotificationLikeEventTableViewCell

/-- The four cells. -/
inductive RowCell where
  | userFollow | form | notificationFollow | notificationLike
  deriving DecidableEq

namespace RowCell

/-- The frames of a cell's subviews. -/
def frames : RowCell → ℚ → ℚ → List (Rect ℚ)
  | userFollow => UserFollowTableViewCell.setupSubviews
  | form => FormTableViewCell.layoutSubviews
  | notificationFollow => NotificationFollowEventTableViewCell.setupSubviews
  | notificationLike => NotificationLikeEventTableViewCell.setupSubviews

/-- The height of its button, where the code fixes it. -/
def buttonHeight : RowCell → ℚ
  | userFollow | notificationFollow => 40
  | form | notificationLike => 0

/-- A row big enough: no width or height comes out negative, and the button fits. -/
def Fits (cell : RowCell) (w h : ℚ) : Prop :=
  (∀ f ∈ cell.frames w h, 0 ≤ f.width ∧ 0 ≤ f.height) ∧ cell.buttonHeight ≤ h

/-- **The controls are apart and inside the row**: every frame within `[0, w]`, no two with common
points inside. -/
def KeepsApart (cell : RowCell) (w h : ℚ) : Prop :=
  (∀ f ∈ cell.frames w h, 0 ≤ f.x ∧ f.right ≤ w) ∧ (cell.frames w h).Pairwise Rect.Apart

end RowCell

/-! ## The follow cell -/

namespace UserFollowTableViewCell

/-- The label ends where the button would start, were it not for the 5 points to its right. -/
theorem nameLabelFrame_right (w h : ℚ) : (nameLabelFrame w h).right = w - buttonWidth w := by
  simp only [Rect.right, nameLabelFrame, labelWidth, profileImageFrame]
  ring

theorem lt_buttonWidth (hw : 42 ≤ w) : 5 < buttonWidth w := by
  rw [buttonWidth]
  split_ifs <;> linarith

/-- A row big enough for everything has 40 points of height, and its width adds up. -/
theorem width_eq (hfit : RowCell.userFollow.Fits w h) :
    40 ≤ h ∧ 0 ≤ buttonWidth w ∧ 0 ≤ labelWidth w h ∧
      w = h + 2 + labelWidth w h + buttonWidth w := by
  have hname := (hfit.1 (nameLabelFrame w h) (by simp [RowCell.frames, setupSubviews])).1
  have hbutton := (hfit.1 (followButtonFrame w) (by simp [RowCell.frames, setupSubviews])).1
  refine ⟨hfit.2, hbutton, hname, ?_⟩
  simp only [labelWidth, profileImageFrame]
  ring

/-- A name label of some width is under the button. -/
theorem not_apart_of_labelWidth (hfit : RowCell.userFollow.Fits w h) (hl : 0 < labelWidth w h) :
    ¬ (nameLabelFrame w h).Apart (followButtonFrame w) := by
  obtain ⟨hh, hb, -, hw⟩ := width_eq hfit
  have hbutton : 5 < buttonWidth w := lt_buttonWidth (by linarith)
  refine Rect.not_apart ?_ ?_
  · rw [nameLabelFrame_right]
    simp only [nameLabelFrame, followButtonFrame, profileImageFrame, Rect.right, max_lt_iff,
      lt_min_iff]
    constructor <;> constructor <;> linarith
  · simp only [nameLabelFrame, followButtonFrame, Rect.bottom, max_lt_iff, lt_min_iff]
    constructor <;> constructor <;> linarith

/-- All frames are within the row, whether apart or not. -/
theorem inRow (hfit : RowCell.userFollow.Fits w h) :
    ∀ f ∈ setupSubviews w h, 0 ≤ f.x ∧ f.right ≤ w := by
  obtain ⟨hh, hb, hl, hw⟩ := width_eq hfit
  have hphoto : 0 ≤ (profileImageFrame h).x ∧ (profileImageFrame h).right ≤ w := by
    simp only [profileImageFrame, Rect.right]
    constructor <;> linarith
  have hname : 0 ≤ (nameLabelFrame w h).x ∧ (nameLabelFrame w h).right ≤ w := by
    rw [nameLabelFrame_right]
    simp only [nameLabelFrame, profileImageFrame, Rect.right]
    constructor <;> linarith
  have hbutton : 0 ≤ (followButtonFrame w).x ∧ (followButtonFrame w).right ≤ w := by
    simp only [followButtonFrame, Rect.right]
    constructor <;> linarith
  simp only [setupSubviews, List.forall_mem_cons]
  exact ⟨hphoto, hname, hname, hbutton, List.forall_mem_nil _⟩

/-- **The follow cell**: its labels are clear of the button when they have no width. -/
theorem keepsApart_iff (hfit : RowCell.userFollow.Fits w h) :
    RowCell.userFollow.KeepsApart w h ↔ labelWidth w h = 0 := by
  obtain ⟨hh, hb, hl, hw⟩ := width_eq hfit
  constructor
  · rintro ⟨-, hapart⟩
    by_contra hne
    refine not_apart_of_labelWidth hfit (lt_of_le_of_ne hl (Ne.symm hne)) ?_
    simp only [RowCell.frames, setupSubviews, List.pairwise_cons, List.forall_mem_cons] at hapart
    exact hapart.2.1.2.1
  · intro hzero
    have hphoto : ∀ f : Rect ℚ, h - 3 ≤ f.x → (profileImageFrame h).Apart f := fun f hf =>
      Rect.apart_of_right_le (by simp only [Rect.right, profileImageFrame]; linarith)
    have hname : ∀ f, (nameLabelFrame w h).Apart f := Rect.apart_of_width_eq_zero hzero
    have husername : ∀ f, (usernameLabelFrame w h).Apart f := Rect.apart_of_width_eq_zero hzero
    have hlabel : h - 3 ≤ (profileImageFrame h).right + 5 := by
      simp only [Rect.right, profileImageFrame]
      linarith
    have hbutton : h - 3 ≤ (followButtonFrame w).x := by
      simp only [followButtonFrame]
      linarith
    refine ⟨inRow hfit, ?_⟩
    simp only [RowCell.frames, setupSubviews, List.pairwise_cons, List.forall_mem_cons]
    exact ⟨⟨hphoto _ hlabel, hphoto _ hlabel, hphoto _ hbutton, List.forall_mem_nil _⟩,
      ⟨hname _, hname _, List.forall_mem_nil _⟩, ⟨husername _, List.forall_mem_nil _⟩,
      List.forall_mem_nil _, List.Pairwise.nil⟩

end UserFollowTableViewCell

/-! ## The form -/

namespace FormTableViewCell

/-- The field ends 5 points to the right of the row, whatever its width. -/
theorem formTextFieldFrame_right (w h : ℚ) : (formTextFieldFrame w h).right = w + 5 := by
  simp only [Rect.right, formTextFieldFrame, formLabelFrame]
  ring

theorem not_keepsApart (w h : ℚ) : ¬ RowCell.form.KeepsApart w h := by
  rintro ⟨hrow, -⟩
  have hfield := (hrow (formTextFieldFrame w h) (by simp [RowCell.frames, layoutSubviews])).2
  rw [formTextFieldFrame_right] at hfield
  linarith

end FormTableViewCell

/-! ## The notifications -/

/-- **A margin of 16**: a photo 3 points into the row, a button 5 points from its end, and between
them a label 5 points after the photo.  That takes up 13 points, so 3 are left before the button. -/
theorem keepsApart_of_margin {photo label button : Rect ℚ} (hphoto : photo.x = 3)
    (hlabel : label.x = photo.right + 5) (hbutton : button.x = w - 5 - button.width)
    (hwidth : label.width = w - button.width - photo.width - 16) (hp : 0 ≤ photo.width)
    (hl : 0 ≤ label.width) (hb : 0 ≤ button.width) :
    (∀ f ∈ [photo, label, button], 0 ≤ f.x ∧ f.right ≤ w) ∧
      [photo, label, button].Pairwise Rect.Apart := by
  have hphoto_right : photo.right = 3 + photo.width := by rw [Rect.right, hphoto]
  have hlabel_right : label.right = button.x - 3 := by
    rw [Rect.right, hlabel, hphoto_right, hwidth, hbutton]
    ring
  have hbutton_right : button.right = w - 5 := by
    rw [Rect.right, hbutton]
    ring
  have hphoto_label : photo.right ≤ label.x := by linarith
  have hlabel_button : label.right ≤ button.x := by linarith
  have hphoto_button : photo.right ≤ button.x := by linarith
  simp only [List.forall_mem_cons, List.pairwise_cons]
  refine ⟨⟨⟨?_, ?_⟩, ⟨?_, ?_⟩, ⟨?_, ?_⟩, List.forall_mem_nil _⟩,
    ⟨Rect.apart_of_right_le hphoto_label, Rect.apart_of_right_le hphoto_button,
      List.forall_mem_nil _⟩,
    ⟨Rect.apart_of_right_le hlabel_button, List.forall_mem_nil _⟩, List.forall_mem_nil _,
    List.Pairwise.nil⟩ <;> linarith

/-- **The follow notification** keeps its controls apart. -/
theorem NotificationFollowEventTableViewCell.keepsApart
    (hfit : RowCell.notificationFollow.Fits w h) : RowCell.notificationFollow.KeepsApart w h := by
  have hpos := hfit.1
  simp only [RowCell.frames, setupSubviews, List.forall_mem_cons] at hpos
  obtain ⟨⟨hphoto, -⟩, ⟨hlabel, -⟩, ⟨hbutton, -⟩, -⟩ := hpos
  exact keepsApart_of_margin rfl rfl rfl rfl hphoto hlabel hbutton

/-- **The like notification** does so, too. -/
theorem NotificationLikeEventTableViewCell.keepsApart
    (hfit : RowCell.notificationLike.Fits w h) : RowCell.notificationLike.KeepsApart w h := by
  have hpos := hfit.1
  simp only [RowCell.frames, setupSubviews, List.forall_mem_cons] at hpos
  obtain ⟨⟨hphoto, -⟩, ⟨hlabel, -⟩, ⟨hbutton, -⟩, -⟩ := hpos
  exact keepsApart_of_margin rfl rfl rfl rfl hphoto hlabel hbutton

/-! ## All four -/

namespace RowCell

/-- The rows in which a cell keeps its controls apart: for the follow cell, those just wide enough
for the photo and the button; for the form none. -/
def Clear : RowCell → ℚ → ℚ → Prop
  | userFollow, w, h => if 500 < w then w = h + 222 else 2 * w = 3 * (h + 2)
  | form, _, _ => False
  | notificationFollow, _, _ | notificationLike, _, _ => True

theorem clear_userFollow :
    userFollow.Clear w h ↔ UserFollowTableViewCell.labelWidth w h = 0 := by
  simp only [Clear, UserFollowTableViewCell.labelWidth, UserFollowTableViewCell.profileImageFrame,
    UserFollowTableViewCell.buttonWidth]
  split_ifs <;> constructor <;> intro h <;> linarith

/-- **Which rows keep their controls apart**, of all that are big enough. -/
theorem keepsApart_iff_clear (cell : RowCell) (w h : ℚ) (hfit : cell.Fits w h) :
    cell.KeepsApart w h ↔ cell.Clear w h := by
  cases cell with
  | userFollow => rw [clear_userFollow, UserFollowTableViewCell.keepsApart_iff hfit]
  | form => exact iff_false_intro (FormTableViewCell.not_keepsApart w h)
  | notificationFollow =>
    exact iff_true_intro (NotificationFollowEventTableViewCell.keepsApart hfit)
  | notificationLike => exact iff_true_intro (NotificationLikeEventTableViewCell.keepsApart hfit)

/-- A row of 375 by 75 points is big enough for each cell. -/
theorem fits_375 (cell : RowCell) : cell.Fits 375 75 := by
  cases cell <;> (unfold Fits; decide +kernel)

/-- There the like notification keeps its controls apart. -/
theorem notificationLike_375 :
    notificationLike.KeepsApart 375 75 ↔ notificationLike.Clear 375 75 :=
  keepsApart_iff_clear .notificationLike 375 75 (fits_375 _)

/-- There the name label of the follow cell is under its button, and the field of the form outside
the row. -/
theorem overlap_375 :
    (userFollow.Fits 375 75 ∧ ¬ userFollow.KeepsApart 375 75) ∧
      form.Fits 375 75 ∧ ¬ form.KeepsApart 375 75 := by
  have hlabel : UserFollowTableViewCell.labelWidth 375 75 ≠ 0 := by decide +kernel
  exact ⟨⟨fits_375 _, mt (UserFollowTableViewCell.keepsApart_iff (fits_375 _)).1 hlabel⟩,
    fits_375 _, FormTableViewCell.not_keepsApart 375 75⟩

end RowCell

end InstaGLAM
