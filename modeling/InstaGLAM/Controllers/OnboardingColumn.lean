import InstaGLAM.Machinery.HitTest
import Mathlib.Algebra.Order.Field.Rat
import Mathlib.Data.List.Nodup
import Mathlib.Tactic.Linarith
import Mathlib.Tactic.Ring

/-!
# Controllers/OnboardingColumn — rows from the top, two buttons from the bottom

    row, row, row, …  ──▸   ◂──  terms, privacy

The column of an onboarding screen and its foot are laid out without regard to each other, the foot
is added later, and its two buttons overlap.  So a row answers all its touches exactly if it ends
above the foot (`Column.answers_iff`), and it is out of reach exactly if it is below the screen or
within the 80 points of the foot (`Column.outOfReach_iff`).
-/

namespace InstaGLAM.Onboarding

open Frame

/-! ## Rows -/

/-- A row of the column, 25 points from both sides. -/
def row (w top height : ℚ) : Rect ℚ := ⟨25, top, w - 50, height⟩

/-- The bounds of a screen. -/
def screenBounds (w h : ℚ) : Rect ℚ := ⟨0, 0, w, h⟩

section Column

variable {w h top height top' height' : ℚ} {p : ℚ × ℚ}

theorem row_contains_iff : (row w top height).Contains p ↔
    (25 ≤ p.1 ∧ p.1 < w - 25) ∧ top ≤ p.2 ∧ p.2 < top + height := by
  have hright : (row w top height).right = w - 25 := by
    rw [Rect.right, row]
    ring
  rw [Rect.Contains, hright]
  rfl

theorem screenBounds_contains_iff :
    (screenBounds w h).Contains p ↔ (0 ≤ p.1 ∧ p.1 < w) ∧ 0 ≤ p.2 ∧ p.2 < h := by
  rw [Rect.Contains, Rect.right, Rect.bottom]
  simp [screenBounds]

/-- The touch at the left of a row, `y` points from the top of the screen. -/
theorem row_contains_left (hw : 50 < w) {y : ℚ} (htop : top ≤ y) (hy : y < top + height) :
    (row w top height).Contains (25, y) :=
  row_contains_iff.2 ⟨⟨le_refl _, by linarith⟩, htop, hy⟩

/-- A row above another, or below it. -/
theorem row_apart (h : top + height ≤ top' ∨ top' + height' ≤ top) :
    (row w top height).Apart (row w top' height') := by
  refine apart_iff_contains.2 fun p hp hp' => ?_
  rw [row_contains_iff] at hp hp'
  obtain ⟨-, hlow, hhigh⟩ := hp
  obtain ⟨-, hlow', hhigh'⟩ := hp'
  rcases h with h | h <;> linarith

/-- A row is inside the screen exactly if it does not reach below it. -/
theorem row_inside_iff (hw : 50 < w) (htop : 0 ≤ top) (hheight : 0 < height) :
    (∀ p, (row w top height).Contains p → (screenBounds w h).Contains p) ↔ top + height ≤ h := by
  constructor
  · intro hinside
    by_contra hbelow
    have hp := row_contains_left (w := w) (y := max top h) hw (le_max_left _ _)
      (max_lt (by linarith) (not_le.1 hbelow))
    exact absurd (screenBounds_contains_iff.1 (hinside _ hp)).2.2 (not_lt.2 (le_max_right _ _))
  · intro hbottom p hp
    obtain ⟨⟨hleft, hright⟩, hlow, hhigh⟩ := row_contains_iff.1 hp
    exact screenBounds_contains_iff.2 ⟨⟨by linarith, by linarith⟩, by linarith, by linarith⟩

/-! ## A row above the foot -/

variable {α : Type*} {frame : α → Rect ℚ} {between onTop : List α} {v terms privacy : α}

/-- A row from `y` on. -/
def RowFrom (w y : ℚ) (frame : α → Rect ℚ) (u : α) : Prop :=
  ∃ top height, frame u = row w top height ∧ y ≤ top

/-- A row of a column that ends with the two buttons of the foot: what else is added after it is
below it, or apart from it anyway. -/
structure AboveFoot (w h top height : ℚ) (frame : α → Rect ℚ) (v : α) (between : List α)
    (terms privacy : α) (onTop : List α) : Prop where
  wide : 50 < w
  below : 0 ≤ top
  high : 20 < height
  once : v ∉ between ++ terms :: privacy :: onTop
  self : frame v = row w top height
  termsFrame : frame terms = row w (h - 100) 50
  privacyFrame : frame privacy = row w (h - 70) 50
  rows : ∀ u ∈ between, RowFrom w (top + height) frame u
  clear : ∀ u ∈ onTop, (row w top height).Apart (frame u)

theorem AboveFoot.apart (hf : AboveFoot w h top height frame v between terms privacy onTop) :
    ∀ u ∈ between ++ onTop, (frame v).Apart (frame u) := by
  intro u hu
  rw [hf.self]
  rcases List.mem_append.1 hu with hu | hu
  · obtain ⟨top', height', hframe, hle⟩ := hf.rows u hu
    rw [hframe]
    exact row_apart (Or.inl hle)
  · exact hf.clear u hu

/-- The controls added after a row of the column. -/
theorem AboveFoot.forall_later (hf : AboveFoot w h top height frame v between terms privacy onTop)
    {P : α → Prop} (hothers : ∀ u ∈ between ++ onTop, P u) (hterms : P terms)
    (hprivacy : P privacy) :
    ∀ u ∈ between ++ terms :: privacy :: onTop, P u := by
  intro u hu
  rcases List.mem_append.1 hu with hu | hu
  · exact hothers u (List.mem_append_left _ hu)
  · rcases List.mem_cons.1 hu with rfl | hu
    · exact hterms
    · rcases List.mem_cons.1 hu with rfl | hu
      · exact hprivacy
      · exact hothers u (List.mem_append_right _ hu)

/-- **A row answers all its touches** exactly if it ends above the foot. -/
theorem AboveFoot.answers_iff (hf : AboveFoot w h top height frame v between terms privacy onTop)
    (earlier : List α) :
    Answers (screenBounds w h) frame (earlier ++ v :: (between ++ terms :: privacy :: onTop)) v ↔
      top + height ≤ h - 100 := by
  have hhigh := hf.high
  rw [Frame.answers_iff earlier hf.once, hf.self,
    row_inside_iff hf.wide hf.below (by linarith)]
  constructor
  · rintro ⟨hinside, hlater⟩
    by_contra hfoot
    have hterms := hlater terms (by simp)
    have hprivacy := hlater privacy (by simp)
    rw [hf.termsFrame, apart_iff_contains] at hterms
    rw [hf.privacyFrame, apart_iff_contains] at hprivacy
    by_cases htop : top < h - 50
    · have hy : max top (h - 100) < top + height := max_lt (by linarith) (not_le.1 hfoot)
      refine hterms _ (row_contains_left hf.wide (le_max_left _ _) hy)
        (row_contains_left hf.wide (le_max_right _ _) (max_lt (by linarith) (by linarith)))
    · have hy : max top (h - 70) < top + height := max_lt (by linarith) (by linarith)
      refine hprivacy _ (row_contains_left hf.wide (le_max_left _ _) hy)
        (row_contains_left hf.wide (le_max_right _ _) (max_lt (by linarith) (by linarith)))
  · intro hbottom
    refine ⟨by linarith, hf.forall_later (hf.self ▸ hf.apart) ?_ ?_⟩
    · rw [hf.termsFrame]
      exact row_apart (Or.inl (by linarith))
    · rw [hf.privacyFrame]
      exact row_apart (Or.inl (by linarith))

/-- **No touch reaches a row** exactly if it is below the screen, or covered by the foot. -/
theorem AboveFoot.outOfReach_iff
    (hf : AboveFoot w h top height frame v between terms privacy onTop) (earlier : List α) :
    OutOfReach (screenBounds w h) frame
        (earlier ++ v :: (between ++ terms :: privacy :: onTop)) v ↔
      h ≤ top ∨ h - 100 ≤ top ∧ top + height ≤ h - 20 := by
  have hwide := hf.wide
  have hbelow := hf.below
  have hhigh := hf.high
  constructor
  · intro hout
    by_contra hclear
    rw [not_or, not_and_or, not_le, not_le, not_le] at hclear
    obtain ⟨hscreen, hfoot⟩ := hclear
    -- a point of the row on the screen, above the foot or below it
    obtain ⟨y, hlow, hy, hyscreen, hyfoot⟩ : ∃ y, top ≤ y ∧ y < top + height ∧ y < h ∧
        (y < h - 100 ∨ h - 20 ≤ y) := by
      rcases hfoot with hfoot | hfoot
      · exact ⟨top, le_refl _, by linarith, hscreen, Or.inl hfoot⟩
      · exact ⟨max top (h - 20), le_max_left _ _, max_lt (by linarith) hfoot,
          max_lt hscreen (by linarith), Or.inr (le_max_right _ _)⟩
    have hself : (frame v).Contains (25, y) := hf.self ▸ row_contains_left hf.wide hlow hy
    have hinside : (screenBounds w h).Contains (25, y) :=
      screenBounds_contains_iff.2 ⟨⟨by norm_num, by linarith⟩, by linarith, hyscreen⟩
    refine hout (25, y) ((touched_eq_some_iff hf.once).2 ⟨hinside, hself, hf.forall_later
      (fun u hu => apart_iff_contains.1 (hf.apart u hu) _ hself) ?_ ?_⟩)
    · rw [hf.termsFrame, row_contains_iff]
      rintro ⟨-, hlow', hhigh'⟩
      rcases hyfoot with hy' | hy' <;> linarith
    · rw [hf.privacyFrame, row_contains_iff]
      rintro ⟨-, hlow', hhigh'⟩
      rcases hyfoot with hy' | hy' <;> linarith
  · intro hcovered p hp
    obtain ⟨hscreen, hself, hlater⟩ := (touched_eq_some_iff hf.once).1 hp
    rw [hf.self, row_contains_iff] at hself
    obtain ⟨hsides, hlow, hhigh'⟩ := hself
    rcases hcovered with hbelow' | ⟨htop, hbottom⟩
    · exact absurd (screenBounds_contains_iff.1 hscreen).2.2 (not_lt.2 (hbelow'.trans hlow))
    · by_cases hy : p.2 < h - 50
      · exact hlater terms (by simp)
          (hf.termsFrame ▸ row_contains_iff.2 ⟨hsides, by linarith, by linarith⟩)
      · exact hlater privacy (by simp)
          (hf.privacyFrame ▸ row_contains_iff.2 ⟨hsides, by linarith, by linarith⟩)

/-! ## A column with its foot -/

/-- The two buttons of the foot; what is added after them is apart from both. -/
structure Foot (w h : ℚ) (frame : α → Rect ℚ) (terms privacy : α) (onTop : List α) : Prop where
  wide : 50 < w
  tall : 100 ≤ h
  terms_once : terms ∉ privacy :: onTop
  privacy_once : privacy ∉ onTop
  termsFrame : frame terms = row w (h - 100) 50
  privacyFrame : frame privacy = row w (h - 70) 50
  clear : ∀ u ∈ onTop, (frame terms).Apart (frame u) ∧ (frame privacy).Apart (frame u)

/-- A screen: rows with their tops and heights, from the top down, and the foot. -/
structure Column (w h : ℚ) (frame : α → Rect ℚ) (column : List (α × ℚ × ℚ)) (terms privacy : α)
    (onTop : List α) : Prop where
  foot : Foot w h frame terms privacy onTop
  once : (column.map Prod.fst ++ terms :: privacy :: onTop).Nodup
  order : column.Pairwise fun a b => a.2.1 + a.2.2 ≤ b.2.1
  rows : ∀ v ∈ column, frame v.1 = row w v.2.1 v.2.2 ∧ 0 ≤ v.2.1 ∧ 20 < v.2.2
  clear : ∀ v ∈ column, ∀ u ∈ onTop, (row w v.2.1 v.2.2).Apart (frame u)

variable {column : List (α × ℚ × ℚ)}

/-- Each row of the column is above the foot. -/
theorem Column.exists_aboveFoot (hc : Column w h frame column terms privacy onTop)
    (hv : (v, top, height) ∈ column) : ∃ earlier between,
      column.map Prod.fst = earlier ++ v :: between ∧
        AboveFoot w h top height frame v between terms privacy onTop := by
  obtain ⟨earlier, between, rfl⟩ := List.append_of_mem hv
  obtain ⟨hself, hbelow, hhigh⟩ := hc.rows _ hv
  have honce := hc.once
  rw [List.map_append, List.map_cons, List.append_assoc, List.cons_append] at honce
  have hlater := (List.nodup_cons.1 (List.nodup_append.1 honce).2.1).1
  refine ⟨earlier.map Prod.fst, between.map Prod.fst, List.map_append, ?_⟩
  have hclear := hc.clear _ hv
  refine ⟨hc.foot.wide, hbelow, hhigh, hlater, hself, hc.foot.termsFrame, hc.foot.privacyFrame, ?_,
    hclear⟩
  intro u hu
  obtain ⟨⟨u, top', height'⟩, hmem, rfl⟩ := List.mem_map.1 hu
  have horder := (List.pairwise_cons.1 (List.pairwise_append.1 hc.order).2.1).1 _ hmem
  have hframe := (hc.rows _ (List.mem_append_right _ (List.mem_cons_of_mem _ hmem))).1
  exact ⟨top', height', hframe, horder⟩

theorem Column.answers_iff (hc : Column w h frame column terms privacy onTop)
    (hv : (v, top, height) ∈ column) :
    Answers (screenBounds w h) frame (column.map Prod.fst ++ terms :: privacy :: onTop) v ↔
      top + height ≤ h - 100 := by
  obtain ⟨earlier, between, hsplit, hf⟩ := hc.exists_aboveFoot hv
  rw [hsplit, List.append_assoc, List.cons_append]
  exact hf.answers_iff earlier

theorem Column.outOfReach_iff (hc : Column w h frame column terms privacy onTop)
    (hv : (v, top, height) ∈ column) :
    OutOfReach (screenBounds w h) frame (column.map Prod.fst ++ terms :: privacy :: onTop) v ↔
      h ≤ top ∨ h - 100 ≤ top ∧ top + height ≤ h - 20 := by
  obtain ⟨earlier, between, hsplit, hf⟩ := hc.exists_aboveFoot hv
  rw [hsplit, List.append_assoc, List.cons_append]
  exact hf.outOfReach_iff earlier

/-! ## The touches of the foot -/

/-- **The lower 20 of the 50 points of the terms go to the privacy policy.** -/
theorem Foot.touched_terms (hf : Foot w h frame terms privacy onTop) (earlier : List α)
    (hp : (frame terms).Contains p) :
    touched (screenBounds w h) frame (earlier ++ terms :: privacy :: onTop) p =
      some (if p.2 < h - 70 then terms else privacy) := by
  have htall := hf.tall
  have hrow := hp
  rw [hf.termsFrame, row_contains_iff] at hrow
  obtain ⟨⟨hleft, hright⟩, hlow, hhigh⟩ := hrow
  have hclear : ∀ u ∈ onTop, ¬ (frame u).Contains p := fun u hu =>
    apart_iff_contains.1 (hf.clear u hu).1 p hp
  have hinside : (screenBounds w h).Contains p :=
    screenBounds_contains_iff.2 ⟨⟨by linarith, by linarith⟩, by linarith, by linarith⟩
  split_ifs with hstrip
  · refine (touched_eq_some_iff hf.terms_once).2
      ⟨hinside, hp, List.forall_mem_cons.2 ⟨?_, hclear⟩⟩
    rw [hf.privacyFrame, row_contains_iff]
    rintro ⟨-, hlow', -⟩
    exact absurd hstrip (not_lt.2 hlow')
  · rw [List.append_cons, touched_eq_some_iff hf.privacy_once, hf.privacyFrame, row_contains_iff]
    exact ⟨hinside, ⟨⟨hleft, hright⟩, not_lt.1 hstrip, by linarith⟩, hclear⟩

/-- **The privacy policy answers all its touches.** -/
theorem Foot.answers_privacy (hf : Foot w h frame terms privacy onTop) (earlier : List α) :
    Answers (screenBounds w h) frame (earlier ++ terms :: privacy :: onTop) privacy := by
  have htall := hf.tall
  rw [List.append_cons, Frame.answers_iff _ hf.privacy_once]
  refine ⟨?_, fun u hu => (hf.clear u hu).2⟩
  rw [hf.privacyFrame, row_inside_iff hf.wide (by linarith) (by norm_num)]
  linarith

/-- **The terms do not**, and no touch is kept from the two altogether. -/
theorem Foot.not_answers_terms (hf : Foot w h frame terms privacy onTop) (earlier : List α) :
    ¬ Answers (screenBounds w h) frame (earlier ++ terms :: privacy :: onTop) terms ∧
      ¬ OutOfReach (screenBounds w h) frame (earlier ++ terms :: privacy :: onTop) terms ∧
      ¬ OutOfReach (screenBounds w h) frame (earlier ++ terms :: privacy :: onTop) privacy := by
  have hupper : (frame terms).Contains (25, h - 100) :=
    hf.termsFrame ▸ row_contains_left hf.wide (le_refl _) (by linarith)
  have hlower : (frame terms).Contains (25, h - 70) :=
    hf.termsFrame ▸ row_contains_left hf.wide (by linarith) (by linarith)
  have hne : privacy ≠ terms := fun heq => hf.terms_once (heq ▸ List.mem_cons_self)
  refine ⟨fun hall => ?_, fun hout => hout (25, h - 100) ?_, fun hout => hout (25, h - 70) ?_⟩
  · have hself := (hf.touched_terms earlier hlower).symm.trans (hall _ hlower)
    rw [if_neg (lt_irrefl _)] at hself
    exact hne (Option.some.inj hself)
  · exact (hf.touched_terms earlier hupper).trans (by rw [if_pos (by linarith)])
  · exact (hf.touched_terms earlier hlower).trans (by rw [if_neg (lt_irrefl _)])

end Column

end InstaGLAM.Onboarding
