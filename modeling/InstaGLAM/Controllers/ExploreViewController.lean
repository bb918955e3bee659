import InstaGLAM.Helpers.StringExtension
import InstaGLAM.Machinery.Trace
import Mathlib.Data.Rat.Defs

/-!
# Controllers/ExploreViewController — the search overlay and its two fades

    begin ──▸ dimmed view in, fade in ──0.4 s──▸ tabbed view in
    cancel ─▸ everything out, fade out ─0.4 s──▸ dimmed view out

Each action of the user changes the overlay at once and starts a fade, and the completion of a fade
changes the overlay again, whatever the user has done since.  `settled_iff_onTime` says when the
overlay still is what the last action asked for: no completion of the opposite kind has come in
after it.
-/

namespace InstaGLAM

open Trace

/-! ## The overlay -/

/-- The two animations of the dimmed view's alpha. -/
inductive Fade where
  | fadeIn | fadeOut
  deriving DecidableEq

/-- A started animation. -/
structure Animation where
  id : ℕ
  fade : Fade
  deriving DecidableEq

/-- The search overlay of `ExploreViewController`, with the animations whose completion has not run
and the number of animations started. -/
structure Overlay where
  isEditing : Bool
  cancelButton : Bool
  dimmedViewAlpha : ℚ
  dimmedViewHidden : Bool
  tabbedSearchHidden : Bool
  pending : List Animation
  started : ℕ

namespace Overlay

/-- After `viewDidLoad()`. -/
def loaded : Overlay := ⟨false, false, 0, true, true, [], 0⟩

/-- `UIView.animate(withDuration: 0.4)`: the alpha changes at once as far as the code can see, and
the completion is kept. -/
def animate (s : Overlay) (fade : Fade) (alpha : ℚ) : Overlay :=
  { s with dimmedViewAlpha := alpha, pending := ⟨s.started, fade⟩ :: s.pending
           started := s.started + 1 }

/-- `searchBarTextDidBeginEditing(_:)` -/
def searchBarTextDidBeginEditing (s : Overlay) : Overlay :=
  { s with isEditing := true, cancelButton := true, dimmedViewHidden := false }.animate .fadeIn
    (2 / 5)

/-- `didCancelSearch()` -/
def didCancelSearch (s : Overlay) : Overlay :=
  { s with isEditing := false, cancelButton := false, tabbedSearchHidden := true
           dimmedViewHidden := true }.animate .fadeOut 0

/-- `query(_:)`, which has no body yet. -/
def query (s : Overlay) (_text : SwiftString) : Overlay := s

/-- `searchBarSearchButtonClicked(_:)` -/
def searchBarSearchButtonClicked (s : Overlay) (text : Option SwiftString) : Overlay :=
  let s := s.didCancelSearch
  match text with
  | some content => if !content.isEmpty && content != [] then s.query content else s
  | none => s

/-- The completion closures of the two animations. -/
def complete (s : Overlay) (a : Animation) (done : Bool) : Overlay :=
  let s := { s with pending := s.pending.erase a }
  match a.fade with
  | .fadeIn => if done then { s with tabbedSearchHidden := false } else s
  | .fadeOut => { s with dimmedViewHidden := true }

theorem searchBarSearchButtonClicked_eq (s : Overlay) (text : Option SwiftString) :
    s.searchBarSearchButtonClicked text = s.didCancelSearch := by
  rcases text with - | content
  · rfl
  · simp only [searchBarSearchButtonClicked, query, ite_self]

end Overlay

/-! ## Events -/

/-- What the user does; the Cancel button and a tap on the dimmed view both cancel. -/
inductive SearchAction where
  | begin
  | cancel
  | submit (text : Option SwiftString)

/-- What an action does at once. -/
def Overlay.act (s : Overlay) : SearchAction → Overlay
  | .begin => s.searchBarTextDidBeginEditing
  | .cancel => s.didCancelSearch
  | .submit text => s.searchBarSearchButtonClicked text

/-- The fade an action starts. -/
def SearchAction.fade : SearchAction → Fade
  | .begin => .fadeIn
  | .cancel | .submit _ => .fadeOut

/-- An action, or the completion of an animation with its `finished` flag. -/
inductive OverlayEvent where
  | action (a : SearchAction)
  | completed (a : Animation) (done : Bool)

/-- A completion may come at any time while its animation is pending. -/
inductive Overlay.Step : Overlay → OverlayEvent → Overlay → Prop
  | action {s a} : Step s (.action a) (s.act a)
  | completed {s a d} : a ∈ s.pending → Step s (.completed a d) (s.complete a d)

/-! ## What the last action asked for -/

/-- The number of animations started. -/
def animations : List OverlayEvent → ℕ
  | [] => 0
  | .action _ :: trace => animations trace + 1
  | .completed _ _ :: trace => animations trace

/-- The last action, and the animation it started. -/
def lastAction : List OverlayEvent → Option (SearchAction × Animation)
  | [] => none
  | .action a :: trace => some (a, ⟨animations trace, a.fade⟩)
  | .completed _ _ :: trace => lastAction trace

/-- The completions that have come in since the last action. -/
def sinceLastAction : List OverlayEvent → List (Animation × Bool)
  | [] => []
  | .action _ :: _ => []
  | .completed a done :: trace => (a, done) :: sinceLastAction trace

/-- **Settled**: the overlay is what the last action asked for. -/
def Settled (trace : List OverlayEvent) (s : Overlay) : Prop :=
  match lastAction trace with
  | none => True
  | some (.begin, a) => s.cancelButton = true ∧ s.dimmedViewHidden = false ∧
    (OverlayEvent.completed a true ∈ trace → s.tabbedSearchHidden = false)
  | some (.cancel, _) | some (.submit _, _) =>
    s.cancelButton = false ∧ s.dimmedViewHidden = true ∧ s.tabbedSearchHidden = true

/-- The completions that undo an action: any fade out after a begin, a finished fade in after a
cancel or a submit. -/
def SearchAction.undoneBy : SearchAction → Animation × Bool → Bool
  | .begin, (a, _) => a.fade == .fadeOut
  | .cancel, (a, done) | .submit _, (a, done) => a.fade == .fadeIn && done

/-- **On time**: no completion has come in that undoes the last action. -/
def OnTime (trace : List OverlayEvent) : Prop :=
  match lastAction trace with
  | none => True
  | some (a, _) => ∀ c ∈ sinceLastAction trace, a.undoneBy c = false

/-! ## What the overlay shows, in terms of the trace -/

namespace Overlay

variable {trace : List OverlayEvent} {s s' : Overlay} {e : OverlayEvent}

/-- Animations are numbered as they are started, and only started ones are pending or completed. -/
structure Numbered (trace : List OverlayEvent) (s : Overlay) : Prop where
  started : s.started = animations trace
  pending : ∀ a ∈ s.pending, a.id < s.started
  completed : ∀ a done, OverlayEvent.completed a done ∈ trace → a.id < s.started

/-- **What each part of the overlay shows**: the Cancel button the last action, the dimmed view and
the tabbed view whether a completion has come in that undoes it. -/
def Tracks (trace : List OverlayEvent) (s : Overlay) : Prop :=
  match lastAction trace with
  | none => True
  | some (.begin, a) => s.cancelButton = true ∧
    s.dimmedViewHidden = (sinceLastAction trace).any (SearchAction.undoneBy .begin) ∧
    (OverlayEvent.completed a true ∈ trace → s.tabbedSearchHidden = false)
  | some (.cancel, _) | some (.submit _, _) => s.cancelButton = false ∧
    s.dimmedViewHidden = true ∧
    s.tabbedSearchHidden = !(sinceLastAction trace).any (SearchAction.undoneBy .cancel)

theorem Numbered.action (h : Numbered trace s) (a : SearchAction) :
    Numbered (.action a :: trace) (s.act a) := by
  have hact : (s.act a).pending = ⟨s.started, a.fade⟩ :: s.pending ∧
      (s.act a).started = s.started + 1 := by
    cases a with
    | begin => exact ⟨rfl, rfl⟩
    | cancel => exact ⟨rfl, rfl⟩
    | submit text =>
      rw [act, searchBarSearchButtonClicked_eq]
      exact ⟨rfl, rfl⟩
  refine ⟨?_, fun b hb => ?_, fun b done hb => ?_⟩
  · rw [hact.2, h.started, animations]
  · rw [hact.1, List.mem_cons] at hb
    rw [hact.2]
    rcases hb with rfl | hb
    · exact Nat.lt_succ_self _
    · exact Nat.lt_succ_of_lt (h.pending b hb)
  · rw [hact.2]
    exact Nat.lt_succ_of_lt (h.completed b done (by simpa using hb))

theorem Numbered.complete (h : Numbered trace s) {a : Animation} (ha : a ∈ s.pending)
    (done : Bool) : Numbered (.completed a done :: trace) (s.complete a done) := by
  have hcomplete : (s.complete a done).pending = s.pending.erase a ∧
      (s.complete a done).started = s.started := by
    rcases a with ⟨id, _ | _⟩ <;> cases done <;> exact ⟨rfl, rfl⟩
  refine ⟨?_, fun b hb => ?_, fun b done' hb => ?_⟩
  · rw [hcomplete.2, h.started, animations]
  · rw [hcomplete.2]
    rw [hcomplete.1] at hb
    exact h.pending b (List.mem_of_mem_erase hb)
  · rw [hcomplete.2]
    simp only [List.mem_cons, OverlayEvent.completed.injEq] at hb
    rcases hb with ⟨rfl, -⟩ | hb
    · exact h.pending b ha
    · exact h.completed b done' hb

/-- An action shows what it asks for. -/
theorem Tracks.action (hn : Numbered trace s) (a : SearchAction) :
    Tracks (.action a :: trace) (s.act a) := by
  cases a with
  | begin =>
    refine ⟨rfl, rfl, fun hmem => ?_⟩
    have hmem := List.mem_of_ne_of_mem (by simp) hmem
    have hlt := hn.completed ⟨animations trace, .fadeIn⟩ true hmem
    rw [hn.started] at hlt
    exact absurd hlt (Nat.lt_irrefl _)
  | cancel => exact ⟨rfl, rfl, rfl⟩
  | submit text =>
    rw [act, searchBarSearchButtonClicked_eq]
    exact ⟨rfl, rfl, rfl⟩

theorem fade_of_lastAction {a : SearchAction} {anim : Animation}
    (h : lastAction trace = some (a, anim)) : anim.fade = a.fade := by
  induction trace with
  | nil => exact nomatch h
  | cons e trace ih =>
    cases e with
    | action b =>
      obtain ⟨rfl, rfl⟩ := Prod.mk.inj (Option.some.inj h)
      rfl
    | completed b done => exact ih h

/-- A completion changes what is shown only by undoing the last action. -/
theorem Tracks.complete (h : Tracks trace s) (a : Animation) (done : Bool) :
    Tracks (.completed a done :: trace) (s.complete a done) := by
  rw [Tracks, lastAction, sinceLastAction]
  rw [Tracks] at h
  obtain ⟨id, fade⟩ := a
  rcases hlast : lastAction trace with - | ⟨_ | _ | _, anim⟩
  · trivial
  · rw [hlast] at h
    obtain ⟨hcancel, hdimmed, htabbed⟩ := h
    cases fade with
    | fadeIn =>
      cases done
      · exact ⟨hcancel, hdimmed, fun hmem => htabbed (List.mem_of_ne_of_mem (by simp) hmem)⟩
      · exact ⟨hcancel, hdimmed, fun _ => rfl⟩
    | fadeOut =>
      refine ⟨hcancel, rfl, fun hmem => htabbed (List.mem_of_ne_of_mem ?_ hmem)⟩
      -- the begin's own animation is a fade in
      rintro heq
      have hfade := fade_of_lastAction hlast
      rw [(OverlayEvent.completed.inj heq).1] at hfade
      exact nomatch hfade
  all_goals
    rw [hlast] at h
    obtain ⟨hcancel, hdimmed, htabbed⟩ := h
    cases fade with
    | fadeIn =>
      cases done
      · exact ⟨hcancel, hdimmed, htabbed⟩
      · exact ⟨hcancel, hdimmed, rfl⟩
    | fadeOut => exact ⟨hcancel, rfl, htabbed⟩

theorem tracks_of_run (h : Run Step loaded trace s) : Numbered trace s ∧ Tracks trace s := by
  refine h.invariant (I := fun trace s => Numbered trace s ∧ Tracks trace s) ⟨?_, trivial⟩ ?_
  · exact ⟨rfl, fun a ha => by simp [loaded] at ha, fun a done ha => by simp at ha⟩
  · rintro trace s e s' ⟨hn, ht⟩ hs
    cases hs with
    | action => exact ⟨hn.action _, Tracks.action hn _⟩
    | completed ha => exact ⟨hn.complete ha _, ht.complete _ _⟩

end Overlay

/-- **The overlay is what the last action asked for exactly when no completion has come in that
undoes it**, in every state of every run. -/
theorem settled_iff_onTime {trace : List OverlayEvent} {s : Overlay}
    (h : Run Overlay.Step Overlay.loaded trace s) : Settled trace s ↔ OnTime trace := by
  have htracks := (Overlay.tracks_of_run h).2
  rw [Overlay.Tracks] at htracks
  rw [Settled, OnTime]
  have hany : ∀ a : SearchAction, (∀ c ∈ sinceLastAction trace, a.undoneBy c = false) ↔
      (sinceLastAction trace).any a.undoneBy = false := by simp
  rcases hlast : lastAction trace with - | ⟨_ | _ | _, anim⟩
  · rfl
  all_goals
    rw [hlast] at htracks
    obtain ⟨hcancel, hdimmed, htabbed⟩ := htracks
  · simp only [hany, ← hdimmed, hcancel, true_and]
    exact and_iff_left htabbed
  · simp only [hany, hcancel, hdimmed, htabbed, true_and, Bool.not_eq_true']
  · simp only [hany, hcancel, hdimmed, htabbed, true_and, Bool.not_eq_true']
    rfl

/-- Begin and cancel within one fade: the fade in still finishes, after the cancel. -/
def lateFadeIn : List OverlayEvent :=
  [.completed ⟨1, .fadeOut⟩ true, .completed ⟨0, .fadeIn⟩ true, .action .cancel, .action .begin]

/-- It leaves the tabbed view on the screen with nothing to come. -/
theorem lateFadeIn_unsettled : ¬ ∀ trace s, Run Overlay.Step Overlay.loaded trace s →
    s.pending = [] → Settled trace s := by
  intro h
  have hstart : Run Overlay.Step Overlay.loaded [] Overlay.loaded := .nil
  have hbegun := (hstart.cons (.action (a := .begin))).cons (.action (a := .cancel))
  have hfaded := hbegun.cons (.completed (a := ⟨0, .fadeIn⟩) (d := true) (by decide))
  have hrun := hfaded.cons (.completed (a := ⟨1, .fadeOut⟩) (d := true) (by decide))
  have hsettled : Settled lateFadeIn _ := h _ _ hrun rfl
  exact nomatch hsettled.2.2

/-- With the fade in finished before the cancel, everything is put away. -/
theorem cancel_settled : ∃ s, Run Overlay.Step Overlay.loaded [.completed ⟨1, .fadeOut⟩ true,
    .action .cancel, .completed ⟨0, .fadeIn⟩ true, .action .begin] s ∧
      s.cancelButton = false ∧ s.dimmedViewHidden = true ∧ s.tabbedSearchHidden = true := by
  have hstart : Run Overlay.Step Overlay.loaded [] Overlay.loaded := .nil
  have hfaded := (hstart.cons (.action (a := .begin))).cons
    (.completed (a := ⟨0, .fadeIn⟩) (d := true) (by decide))
  have hrun := (hfaded.cons (.action (a := .cancel))).cons
    (.completed (a := ⟨1, .fadeOut⟩) (d := true) (by decide))
  exact ⟨_, hrun, (settled_iff_onTime hrun).2 (by
    simp [OnTime, lastAction, sinceLastAction, SearchAction.undoneBy])⟩

end InstaGLAM
