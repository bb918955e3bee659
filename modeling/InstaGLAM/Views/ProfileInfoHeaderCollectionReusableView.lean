import InstaGLAM.Machinery.Frame
import Mathlib.Data.Rat.Floor
import Mathlib.Tactic.Linarith
import Mathlib.Tactic.Ring

/-!
# Views/ProfileInfoHeaderCollectionReusableView — five frames, rounded one after another

    ┌───────┬──────┬───────────┬───────────┐  5
    │ photo │ post │ followers │ following │
    │       ├──────┴───────────┴───────────┤  5 + w / 8
    │       │         edit profile         │
    └───────┴──────────────────────────────┘

Along the row each frame starts at the rounded edge of the one before, so nothing collides, and the
points that rounding adds still fit in (`right_le`).  Between the two rows the boundary is not
rounded: the upper frames round it up, and the lower one rounds it down.  They meet exactly when it
is a whole number (`keepsApart_iff_multiple`).
-/

namespace InstaGLAM

open Frame

namespace ProfileInfoHeaderCollectionReusableView

/-! ## The frames -/

def profilePhotoSize (w : ℚ) : ℚ := w / 4

def buttonHeight (w : ℚ) : ℚ := profilePhotoSize w / 2

def buttonWidth (w : ℚ) : ℚ := (w - 10 - profilePhotoSize w) / 3

def profilePhotoFrame (w : ℚ) : Rect ℚ :=
  Rect.integral ⟨5, 5, profilePhotoSize w, profilePhotoSize w⟩

def postFrame (w : ℚ) : Rect ℚ :=
  Rect.integral ⟨(profilePhotoFrame w).right, 5, buttonWidth w, buttonHeight w⟩

def followersFrame (w : ℚ) : Rect ℚ :=
  Rect.integral ⟨(postFrame w).right, 5, buttonWidth w, buttonHeight w⟩

def followingFrame (w : ℚ) : Rect ℚ :=
  Rect.integral ⟨(followersFrame w).right, 5, buttonWidth w, buttonHeight w⟩

def editProfileFrame (w : ℚ) : Rect ℚ :=
  Rect.integral ⟨(profilePhotoFrame w).right, 5 + buttonHeight w, buttonWidth w * 3, buttonHeight w⟩

/-- `layoutSubviews()`: the frames of the photo and of the four buttons. -/
def layoutSubviews (w : ℚ) : List (Rect ℚ) :=
  [profilePhotoFrame w, postFrame w, followersFrame w, followingFrame w, editProfileFrame w]

/-- **The controls do not collide**, and stay within the header's width. -/
def KeepsApart (w : ℚ) : Prop :=
  (layoutSubviews w).Pairwise Rect.Apart ∧ ∀ f ∈ layoutSubviews w, f.right ≤ w

variable {w : ℚ}

/-! ## Along a row -/

theorem buttonWidth_eq (w : ℚ) : 3 * buttonWidth w = w - 10 - w / 4 := by
  rw [buttonWidth, profilePhotoSize]
  ring

theorem buttonWidth_pos (hw : 14 ≤ w) : 0 < buttonWidth w := by
  have h := buttonWidth_eq w
  linarith

theorem postFrame_x (w : ℚ) : (postFrame w).x = (profilePhotoFrame w).right :=
  Rect.integral_x_of_right rfl

theorem followersFrame_x (w : ℚ) : (followersFrame w).x = (postFrame w).right :=
  Rect.integral_x_of_right rfl

theorem followingFrame_x (w : ℚ) : (followingFrame w).x = (followersFrame w).right :=
  Rect.integral_x_of_right rfl

theorem editProfileFrame_x (w : ℚ) : (editProfileFrame w).x = (profilePhotoFrame w).right :=
  Rect.integral_x_of_right rfl

/-- A frame ends its own width to the right of where it starts, and less than a point further. -/
theorem right_integral (x y width height : ℚ) :
    x + width ≤ (Rect.integral ⟨x, y, width, height⟩).right ∧
      (Rect.integral ⟨x, y, width, height⟩).right < x + width + 1 :=
  ⟨Rect.right_le_integral_right ⟨x, y, width, height⟩, Rect.integral_right_lt ⟨x, y, width, height⟩⟩

/-- The edges of the upper row come in order. -/
theorem right_mono (hw : 14 ≤ w) : (profilePhotoFrame w).right < (postFrame w).right ∧
    (postFrame w).right < (followersFrame w).right ∧
    (followersFrame w).right < (followingFrame w).right := by
  have hb := buttonWidth_pos hw
  have hpost := (right_integral (profilePhotoFrame w).right 5 (buttonWidth w) (buttonHeight w)).1
  have hfollowers := (right_integral (postFrame w).right 5 (buttonWidth w) (buttonHeight w)).1
  have hfollowing := (right_integral (followersFrame w).right 5 (buttonWidth w) (buttonHeight w)).1
  exact ⟨(lt_add_of_pos_right _ hb).trans_le hpost, (lt_add_of_pos_right _ hb).trans_le hfollowers,
    (lt_add_of_pos_right _ hb).trans_le hfollowing⟩

/-- **Everything fits in**: four roundings add less than 4 points, and 4 of the 10 points that the
buttons leave are still there. -/
theorem right_le (hw : 14 ≤ w) : ∀ f ∈ layoutSubviews w, f.right ≤ w := by
  obtain ⟨hpost, hfollowers, hfollowing⟩ := right_mono hw
  have h₀ := (right_integral 5 5 (profilePhotoSize w) (profilePhotoSize w)).2
  have h₁ := (right_integral (profilePhotoFrame w).right 5 (buttonWidth w) (buttonHeight w)).2
  have h₂ := (right_integral (postFrame w).right 5 (buttonWidth w) (buttonHeight w)).2
  have h₃ := (right_integral (followersFrame w).right 5 (buttonWidth w) (buttonHeight w)).2
  have hedit := (right_integral (profilePhotoFrame w).right (5 + buttonHeight w) (buttonWidth w * 3)
    (buttonHeight w)).2
  have hwidth := buttonWidth_eq w
  change (profilePhotoFrame w).right < 5 + w / 4 + 1 at h₀
  change (postFrame w).right < _ at h₁
  change (followersFrame w).right < _ at h₂
  change (followingFrame w).right < _ at h₃
  change (editProfileFrame w).right < _ at hedit
  simp only [layoutSubviews, List.forall_mem_cons]
  refine ⟨?_, ?_, ?_, ?_, ?_, List.forall_mem_nil _⟩ <;> linarith

/-! ## Between the rows -/

/-- The boundary of the two rows. -/
theorem five_add_buttonHeight (w : ℚ) : 5 + buttonHeight w = 5 + w / 8 := by
  rw [buttonHeight, profilePhotoSize]
  ring

theorem bottom_eq (w : ℚ) : (postFrame w).bottom = ⌈5 + w / 8⌉ ∧
    (followersFrame w).bottom = ⌈5 + w / 8⌉ ∧ (followingFrame w).bottom = ⌈5 + w / 8⌉ := by
  rw [← five_add_buttonHeight]
  exact ⟨Rect.integral_bottom _, Rect.integral_bottom _, Rect.integral_bottom _⟩

theorem editProfileFrame_y (w : ℚ) : (editProfileFrame w).y = ⌊5 + w / 8⌋ := by
  rw [← five_add_buttonHeight]
  exact Rect.integral_y _

/-- The rows meet where their boundary needs no rounding. -/
theorem ceil_le_floor_iff : (⌈5 + w / 8⌉ : ℚ) ≤ ⌊5 + w / 8⌋ ↔ ∃ k : ℤ, w = 8 * k := by
  constructor
  · intro h
    have hle := (Int.le_ceil (5 + w / 8)).trans h
    have heq : (⌊5 + w / 8⌋ : ℚ) = 5 + w / 8 := le_antisymm (Int.floor_le _) hle
    refine ⟨⌊5 + w / 8⌋ - 5, ?_⟩
    push_cast
    linarith
  · rintro ⟨k, rfl⟩
    have hint : 5 + 8 * (k : ℚ) / 8 = ((5 + k : ℤ) : ℚ) := by
      push_cast
      ring
    rw [hint, Int.ceil_intCast, Int.floor_intCast]

/-- Off the whole numbers, the post button and the edit button overlap. -/
theorem not_apart_of_lt (hw : 14 ≤ w) (h : (⌊5 + w / 8⌋ : ℚ) < ⌈5 + w / 8⌉) :
    ¬ (postFrame w).Apart (editProfileFrame w) := by
  have hb := buttonWidth_pos hw
  have hfive : (5 : ℚ) ≤ ⌊5 + w / 8⌋ := by
    have hfloor : (5 : ℤ) ≤ ⌊5 + w / 8⌋ := Int.le_floor.2 (by push_cast; linarith)
    exact_mod_cast hfloor
  have hedit := (right_integral (profilePhotoFrame w).right (5 + buttonHeight w) (buttonWidth w * 3)
    (buttonHeight w)).1
  have hbottom : 5 + w / 8 < (editProfileFrame w).bottom := by
    refine lt_of_lt_of_le ?_ (Rect.bottom_le_integral_bottom _)
    simp only [Rect.bottom, buttonHeight, profilePhotoSize]
    linarith
  have hfloor : (⌊5 + w / 8⌋ : ℚ) < (editProfileFrame w).bottom := (Int.floor_le _).trans_lt hbottom
  refine Rect.not_apart ?_ ?_
  · rw [postFrame_x, editProfileFrame_x, max_self]
    refine lt_min (right_mono hw).1 (lt_of_lt_of_le ?_ hedit)
    linarith
  · rw [(bottom_eq w).1, editProfileFrame_y]
    have hy : (postFrame w).y ≤ 5 := Int.floor_le _
    refine max_lt ?_ (lt_min h hfloor)
    exact (hy.trans hfive).trans_lt (lt_min h hfloor)

/-- Where the rows meet, all five are apart. -/
theorem pairwise_apart (hw : 14 ≤ w) (h : (⌈5 + w / 8⌉ : ℚ) ≤ ⌊5 + w / 8⌋) :
    (layoutSubviews w).Pairwise Rect.Apart := by
  obtain ⟨hpost, hfollowers, hfollowing⟩ := right_mono hw
  obtain ⟨hb₁, hb₂, hb₃⟩ := bottom_eq w
  have hrow : ∀ {f : Rect ℚ}, f.bottom = ⌈5 + w / 8⌉ → f.Apart (editProfileFrame w) := fun hf =>
    Rect.apart_of_bottom_le (by rw [hf, editProfileFrame_y]; exact h)
  simp only [layoutSubviews, List.pairwise_cons, List.forall_mem_cons]
  refine ⟨⟨Rect.apart_of_right_le ?_, Rect.apart_of_right_le ?_, Rect.apart_of_right_le ?_,
      Rect.apart_of_right_le ?_, List.forall_mem_nil _⟩,
    ⟨Rect.apart_of_right_le ?_, Rect.apart_of_right_le ?_, hrow hb₁, List.forall_mem_nil _⟩,
    ⟨Rect.apart_of_right_le ?_, hrow hb₂, List.forall_mem_nil _⟩,
    ⟨hrow hb₃, List.forall_mem_nil _⟩, List.forall_mem_nil _, List.Pairwise.nil⟩
  · rw [postFrame_x]
  · rw [followersFrame_x]
    exact hpost.le
  · rw [followingFrame_x]
    exact (hpost.trans hfollowers).le
  · rw [editProfileFrame_x]
  · rw [followersFrame_x]
  · rw [followingFrame_x]
    exact hfollowers.le
  · rw [followingFrame_x]

/-- **When the header's controls keep apart**: for widths that are whole multiples of 8. -/
theorem keepsApart_iff_multiple (hw : 14 ≤ w) : KeepsApart w ↔ ∃ k : ℤ, w = 8 * k := by
  rw [← ceil_le_floor_iff]
  constructor
  · rintro ⟨hapart, -⟩
    by_contra h
    simp only [layoutSubviews, List.pairwise_cons, List.forall_mem_cons] at hapart
    exact not_apart_of_lt hw (not_le.1 h) hapart.2.1.2.2.1
  · intro h
    exact ⟨pairwise_apart hw h, right_le hw⟩

/-- A header of 400 points. -/
theorem keepsApart_400 : KeepsApart 400 ↔ ∃ k : ℤ, (400 : ℚ) = 8 * k :=
  keepsApart_iff_multiple (by norm_num)

/-- In a header of 375 points the post button reaches into the edit button. -/
theorem not_keepsApart_375 : ¬ KeepsApart 375 := by
  rintro ⟨hapart, -⟩
  simp only [layoutSubviews, List.pairwise_cons, List.forall_mem_cons] at hapart
  refine not_apart_of_lt (by norm_num) ?_ hapart.2.1.2.2.1
  norm_num

end ProfileInfoHeaderCollectionReusableView

end InstaGLAM
