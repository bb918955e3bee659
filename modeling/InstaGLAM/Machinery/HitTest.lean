import InstaGLAM.Machinery.Frame
import Mathlib.Data.List.Basic

/-!
# Machinery/HitTest — which subview a touch goes to

    bounds ∋ p ──▸ the subview added last of those whose frames contain p

A subview answers every touch in its frame exactly if its frame is inside the bounds and apart from
those of the subviews added after it (`answers_iff`); it is out of reach if the later ones cover
what there is of it inside the bounds.
-/

namespace Frame

variable {K : Type*} [Field K] [LinearOrder K] {α : Type*}

/-- The point is in the frame: the near edges belong to it, the far ones do not. -/
def Rect.Contains (a : Rect K) (p : K × K) : Prop :=
  (a.x ≤ p.1 ∧ p.1 < a.right) ∧ a.y ≤ p.2 ∧ p.2 < a.bottom

instance (a : Rect K) (p : K × K) : Decidable (a.Contains p) :=
  inferInstanceAs (Decidable (_ ∧ _))

/-- The subview that contains the point, the one added last if there are several. -/
def hitTest (frame : α → Rect K) : List α → K × K → Option α
  | [], _ => none
  | v :: later, p => (hitTest frame later p).or (if (frame v).Contains p then some v else none)

/-- Where a touch goes; touches outside the bounds go nowhere. -/
def touched (bounds : Rect K) (frame : α → Rect K) (subviews : List α) (p : K × K) : Option α :=
  if bounds.Contains p then hitTest frame subviews p else none

/-- Every touch in its frame goes to `v`. -/
def Answers (bounds : Rect K) (frame : α → Rect K) (subviews : List α) (v : α) : Prop :=
  ∀ p, (frame v).Contains p → touched bounds frame subviews p = some v

/-- No touch goes to `v`. -/
def OutOfReach (bounds : Rect K) (frame : α → Rect K) (subviews : List α) (v : α) : Prop :=
  ∀ p, touched bounds frame subviews p ≠ some v

variable {bounds a b : Rect K} {frame : α → Rect K} {earlier later : List α} {u v : α} {p : K × K}

theorem contains_of_hitTest (h : hitTest frame later p = some v) :
    v ∈ later ∧ (frame v).Contains p := by
  induction later with
  | nil => exact nomatch h
  | cons u later ih =>
    rcases Option.or_eq_some_iff.1 h with hlater | ⟨-, hself⟩
    · exact ⟨List.mem_cons_of_mem _ (ih hlater).1, (ih hlater).2⟩
    · split_ifs at hself with hu
      obtain rfl := Option.some.inj hself
      exact ⟨List.mem_cons_self, hu⟩

theorem hitTest_eq_none_iff :
    hitTest frame later p = none ↔ ∀ u ∈ later, ¬ (frame u).Contains p := by
  induction later with
  | nil => exact ⟨fun _ _ hu => (nomatch hu), fun _ => rfl⟩
  | cons u later ih =>
    rw [hitTest, Option.or_eq_none_iff, ih, List.forall_mem_cons, and_comm]
    simp

theorem hitTest_append (earlier later : List α) (p : K × K) :
    hitTest frame (earlier ++ later) p = (hitTest frame later p).or (hitTest frame earlier p) := by
  induction earlier with
  | nil => exact Option.or_none.symm
  | cons u earlier ih => rw [List.cons_append, hitTest, ih, Option.or_assoc, hitTest]

/-- **A touch goes to `v`** exactly if its frame contains the point and no later one does. -/
theorem hitTest_eq_some_iff (hv : v ∉ later) : hitTest frame (earlier ++ v :: later) p = some v ↔
    (frame v).Contains p ∧ ∀ u ∈ later, ¬ (frame u).Contains p := by
  rw [hitTest_append, hitTest]
  constructor
  · intro h
    have hnone : hitTest frame later p = none := by
      by_contra hne
      obtain ⟨u, hu⟩ := Option.ne_none_iff_exists'.1 hne
      rw [hu] at h
      obtain rfl := Option.some.inj h
      exact hv (contains_of_hitTest hu).1
    have hcontains : (frame v).Contains p := by
      by_contra hout
      rw [hnone, if_neg hout] at h
      exact hout (contains_of_hitTest h).2
    exact ⟨hcontains, hitTest_eq_none_iff.1 hnone⟩
  · rintro ⟨hcontains, hnone⟩
    rw [hitTest_eq_none_iff.2 hnone, if_pos hcontains]
    rfl

/-- The same of a touch, which is to be inside the bounds. -/
theorem touched_eq_some_iff (hv : v ∉ later) :
    touched bounds frame (earlier ++ v :: later) p = some v ↔
      bounds.Contains p ∧ (frame v).Contains p ∧ ∀ u ∈ later, ¬ (frame u).Contains p := by
  rw [touched]
  split_ifs with hinside
  · rw [hitTest_eq_some_iff hv]
    exact (and_iff_right hinside).symm
  · exact ⟨False.elim, fun h => hinside h.1⟩

variable [IsStrictOrderedRing K]

/-- **Frames are apart exactly if no touch is in both.** -/
theorem apart_iff_contains : a.Apart b ↔ ∀ p, a.Contains p → ¬ b.Contains p := by
  rw [Rect.apart_iff, ← Set.Ico_disjoint_Ico, ← Set.Ico_disjoint_Ico, ← Set.disjoint_prod,
    Set.disjoint_left]
  rfl

/-- **Every touch in its frame goes to `v`** exactly if the frame is inside the bounds and apart
from the later ones. -/
theorem answers_iff (earlier : List α) (hv : v ∉ later) :
    Answers bounds frame (earlier ++ v :: later) v ↔
      (∀ p, (frame v).Contains p → bounds.Contains p) ∧
        ∀ u ∈ later, (frame v).Apart (frame u) := by
  constructor
  · intro h
    exact ⟨fun p hp => ((touched_eq_some_iff hv).1 (h p hp)).1, fun u hu =>
      apart_iff_contains.2 fun p hp => ((touched_eq_some_iff hv).1 (h p hp)).2.2 u hu⟩
  · rintro ⟨hinside, hapart⟩ p hp
    exact (touched_eq_some_iff hv).2
      ⟨hinside p hp, hp, fun u hu => apart_iff_contains.1 (hapart u hu) p hp⟩

end Frame
