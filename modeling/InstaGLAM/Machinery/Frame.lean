import Mathlib.Algebra.Order.Floor.Ring
import Mathlib.Data.Set.Prod
import Mathlib.Order.CompletePartialOrder
import Mathlib.Order.Interval.Set.Disjoint

/-!
# Machinery/Frame — rectangles, their interiors, and rounding outwards

    (x, y) ┌────────┐
           │        │ bottom = y + height
           └────────┘
            right = x + width

Two frames are apart when their open interiors are disjoint, which is a matter of the two axes
(`apart_iff`).  `integral` moves the origin down and the far edges up to the next integers.
-/

namespace Frame

/-- A rectangle over a field of coordinates. -/
@[ext] structure Rect (K : Type*) where
  x : K
  y : K
  width : K
  height : K
  deriving DecidableEq

variable {K : Type*} [Field K] [LinearOrder K] {a b : Rect K}

namespace Rect

def right (a : Rect K) : K := a.x + a.width

def bottom (a : Rect K) : K := a.y + a.height

/-- The rectangle in its own coordinates. -/
def bounds (a : Rect K) : Rect K := ⟨0, 0, a.width, a.height⟩

/-- The points strictly inside. -/
def interior (a : Rect K) : Set (K × K) := Set.Ioo a.x a.right ×ˢ Set.Ioo a.y a.bottom

/-- Nothing is strictly inside both. -/
def Apart (a b : Rect K) : Prop := Disjoint a.interior b.interior

/-! ## Rounding outwards -/

section Rounding

variable [FloorRing K]

/-- The origin rounded down, the far edges rounded up. -/
def integral (a : Rect K) : Rect K where
  x := ⌊a.x⌋
  y := ⌊a.y⌋
  width := ⌈a.right⌉ - ⌊a.x⌋
  height := ⌈a.bottom⌉ - ⌊a.y⌋

theorem integral_x (a : Rect K) : a.integral.x = ⌊a.x⌋ := rfl

theorem integral_y (a : Rect K) : a.integral.y = ⌊a.y⌋ := rfl

theorem integral_right (a : Rect K) : a.integral.right = ⌈a.right⌉ := add_sub_cancel _ _

theorem integral_bottom (a : Rect K) : a.integral.bottom = ⌈a.bottom⌉ := add_sub_cancel _ _

/-- **Rounding loses nothing to the right**, … -/
theorem right_le_integral_right (a : Rect K) : a.right ≤ a.integral.right :=
  (Int.le_ceil _).trans_eq (integral_right a).symm

theorem bottom_le_integral_bottom (a : Rect K) : a.bottom ≤ a.integral.bottom :=
  (Int.le_ceil _).trans_eq (integral_bottom a).symm

/-- … and adds less than one. -/
theorem integral_right_lt [IsStrictOrderedRing K] (a : Rect K) :
    a.integral.right < a.right + 1 :=
  (integral_right a).trans_lt (Int.ceil_lt_add_one _)

/-- A frame that starts at the rounded edge of another still does when it is rounded itself. -/
theorem integral_x_of_right [IsStrictOrderedRing K] (h : b.x = a.integral.right) :
    b.integral.x = a.integral.right := by
  rw [integral_x, h, integral_right, Int.floor_intCast]

end Rounding

/-! ## Apart -/

variable [IsStrictOrderedRing K]

/-- **Apart on one of the two axes.** -/
theorem apart_iff : a.Apart b ↔
    min a.right b.right ≤ max a.x b.x ∨ min a.bottom b.bottom ≤ max a.y b.y := by
  rw [Apart, interior, interior, Set.disjoint_prod, Set.Ioo_disjoint_Ioo, Set.Ioo_disjoint_Ioo]

theorem apart_of_right_le (h : a.right ≤ b.x) : a.Apart b :=
  apart_iff.2 (Or.inl ((min_le_left _ _).trans (h.trans (le_max_right _ _))))

theorem apart_of_bottom_le (h : a.bottom ≤ b.y) : a.Apart b :=
  apart_iff.2 (Or.inr ((min_le_left _ _).trans (h.trans (le_max_right _ _))))

/-- A frame of no width has nothing inside. -/
theorem apart_of_width_eq_zero (h : a.width = 0) (b : Rect K) : a.Apart b := by
  refine apart_iff.2 (Or.inl ((min_le_left _ _).trans ?_))
  rw [right, h, add_zero]
  exact le_max_left _ _

/-- **Overlap on both axes.** -/
theorem not_apart (hx : max a.x b.x < min a.right b.right)
    (hy : max a.y b.y < min a.bottom b.bottom) : ¬ a.Apart b := by
  rw [apart_iff, not_or, not_le, not_le]
  exact ⟨hx, hy⟩

end Rect

end Frame
