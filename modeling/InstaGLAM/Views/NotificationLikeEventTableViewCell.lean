import InstaGLAM.Machinery.ImageSlot
import InstaGLAM.Models.UserPost
import Mathlib.Data.List.Infix

/-!
# Views/NotificationLikeEventTableViewCell — the thumbnail of a recycled cell

    made ──configure m₁──▸ … ──prepareForReuse──▸ ──configure m₂──▸ …    (loads complete throughout)

The post button has two images.  `prepareForReuse` clears the background image, which only `init`
ever sets, and leaves the image, which `configure` sets for some posts and not for others.  So a
recycled cell never looks like a new one (`sameAsNew_iff`), and for a post `configure` skips it
shows whatever the cell showed or was still loading before (`image_sameAsNew_iff`).
-/

namespace InstaGLAM

open ImageSlot

/-- The cell, with the image slots of its two image views; the post button has a background image
too. -/
structure NotificationLikeEventTableViewCell where
  model : Option UserNotification
  detailsLabel : Option String
  profileImageView : Slot URL Picture
  postButton : Slot URL Picture
  postButtonBackground : Option Picture

/-- Which of the two image views a load is for. -/
inductive LoadTarget where
  | profileImageView | postButton
  deriving DecidableEq

/-- A load that completes, with its image or with an error. -/
structure Completion where
  target : LoadTarget
  url : URL
  succeeded : Bool

/-- What can happen to a cell. -/
inductive CellEvent where
  | prepareForReuse
  | configure (model : UserNotification)
  | completed (c : Completion)

namespace NotificationLikeEventTableViewCell

/-! ## The cell -/

/-- `init(style:reuseIdentifier:)` -/
def made : NotificationLikeEventTableViewCell where
  model := none
  detailsLabel := some "@Emar just liked your new post"
  profileImageView := ⟨some (.named "test"), none⟩
  postButton := ⟨none, none⟩
  postButtonBackground := some (.named "test")

/-- `prepareForReuse()` -/
def prepareForReuse (c : NotificationLikeEventTableViewCell) : NotificationLikeEventTableViewCell :=
  { c with postButtonBackground := none, detailsLabel := none
           profileImageView := c.profileImageView.setImage none }

/-- `thumbnail.absoluteString.contains("google.com")` -/
def isGoogle (url : URL) : Bool := decide ("google.com".toList <:+: url)

/-- `configure(with:)` -/
def configure (c : NotificationLikeEventTableViewCell) (model : UserNotification) :
    NotificationLikeEventTableViewCell :=
  let c := { c with model := some model, detailsLabel := some model.details
                    profileImageView := c.profileImageView.set model.user.profilePhoto }
  match model.type with
  | .like post =>
    if isGoogle post.thumbnailImage then c
    else { c with postButton := c.postButton.set post.thumbnailImage }
  | .follow _ => c

/-- A load completes. -/
def complete (c : NotificationLikeEventTableViewCell) (e : Completion) :
    NotificationLikeEventTableViewCell :=
  let result := if e.succeeded then some (Picture.loaded e.url) else none
  match e.target with
  | .profileImageView => { c with profileImageView := c.profileImageView.complete e.url result }
  | .postButton => { c with postButton := c.postButton.complete e.url result }

/-- `didTapPostBtn()` and the delegate's `didTapRelatePostsBtn(model:)`: the post that is opened. -/
def didTapPostBtn (c : NotificationLikeEventTableViewCell) : Option UserPost :=
  match c.model with
  | some ⟨.like post, _, _⟩ => some post
  | _ => none

/-! ## Histories of one cell -/

/-- What one event does. -/
def step (c : NotificationLikeEventTableViewCell) : CellEvent → NotificationLikeEventTableViewCell
  | .prepareForReuse => c.prepareForReuse
  | .configure model => c.configure model
  | .completed e => c.complete e

/-- The cell after a history, the latest event first. -/
def after (history : List CellEvent) : NotificationLikeEventTableViewCell :=
  history.foldr (fun e c => c.step e) made

/-- The cell may be configured: it is new, or has been prepared for reuse. -/
def ready : List CellEvent → Bool
  | [] => true
  | .prepareForReuse :: _ => true
  | .configure _ :: _ => false
  | .completed _ :: history => ready history

/-- **The histories of one cell**: it is configured with likes, prepared for reuse before each
`configure` but the first, and loads complete at any time. -/
inductive History : List CellEvent → Prop
  | fresh : History []
  | prepareForReuse {history} : History history → ready history = false →
      History (.prepareForReuse :: history)
  | configure {history post details user} : History history → ready history = true →
      History (.configure ⟨.like post, details, user⟩ :: history)
  | completed {history} (e : Completion) : History history → History (.completed e :: history)

/-- Configured with `model`, and then through the same completions, the cell shows on its post
button what a new cell shows. -/
def SameAsNew (history : List CellEvent) (model : UserNotification) : Prop :=
  ∀ cs : List Completion,
    let old := after (cs.map .completed ++ .configure model :: history)
    let new := after (cs.map .completed ++ [.configure model])
    old.postButton.image = new.postButton.image ∧
      old.postButtonBackground = new.postButtonBackground

/-! ## The background image -/

variable {history : List CellEvent} {model : UserNotification}

theorem after_cons (e : CellEvent) (history : List CellEvent) :
    after (e :: history) = (after history).step e := rfl

@[simp] theorem configure_background (c : NotificationLikeEventTableViewCell) :
    (c.configure model).postButtonBackground = c.postButtonBackground := by
  rw [configure]
  rcases model with ⟨⟨post⟩ | _, _, _⟩
  · by_cases h : isGoogle post.thumbnailImage = true <;> simp [h]
  · rfl

@[simp] theorem complete_background (c : NotificationLikeEventTableViewCell) (e : Completion) :
    (c.complete e).postButtonBackground = c.postButtonBackground := by
  rcases e with ⟨_ | _, _, _⟩ <;> rfl

/-- **The background image is gone for good with the first reuse.** -/
theorem after_background (h : .prepareForReuse ∈ history) :
    (after history).postButtonBackground = none := by
  induction history with
  | nil => exact nomatch h
  | cons e history ih =>
    rw [after_cons]
    cases e with
    | prepareForReuse => rfl
    | configure model => exact (configure_background _).trans (ih (by simpa using h))
    | completed c => exact (complete_background _ c).trans (ih (by simpa using h))

/-- A cell that was configured before has been prepared for reuse by the time it is ready again. -/
theorem History.mem_prepareForReuse (hh : History history) (hr : ready history = true)
    {m : UserNotification} (hm : .configure m ∈ history) : .prepareForReuse ∈ history := by
  induction hh with
  | fresh => exact nomatch hm
  | prepareForReuse => exact List.mem_cons_self
  | configure => exact nomatch hr
  | completed e _ ih => exact List.mem_cons_of_mem _ (ih hr (by simpa using hm))

/-- A cell that was never configured is ready, and nothing has happened to it. -/
theorem History.after_eq_made (hh : History history) (hm : ∀ m, .configure m ∉ history) :
    ready history = true ∧ after history = made := by
  induction hh with
  | fresh => exact ⟨rfl, rfl⟩
  | prepareForReuse _ hr ih =>
    have hready := (ih fun m hmem => hm m (List.mem_cons_of_mem _ hmem)).1
    exact nomatch hr.symm.trans hready
  | configure => exact absurd List.mem_cons_self (hm _)
  | completed e _ ih =>
    obtain ⟨hready, hafter⟩ := ih fun m hmem => hm m (List.mem_cons_of_mem _ hmem)
    refine ⟨hready, ?_⟩
    have hprofile : made.profileImageView.loading = none := rfl
    have hbutton : made.postButton.loading = none := rfl
    rw [after_cons, hafter]
    rcases e with ⟨_ | _, url, succeeded⟩
    · simp only [step, complete, complete_of_idle hprofile]
    · simp only [step, complete, complete_of_idle hbutton]

theorem after_append (es history : List CellEvent) :
    after (es ++ history) = es.foldr (fun e c => c.step e) (after history) :=
  List.foldr_append ..

/-- **A cell configured with a like shows what a new one shows exactly if it is new.** -/
theorem sameAsNew_iff (hh : History history) (hr : ready history = true)
    (model : UserNotification) :
    SameAsNew history model ↔ ∀ m, .configure m ∉ history := by
  constructor
  · intro h m hm
    have hold : (after (.configure model :: history)).postButtonBackground = none := by
      rw [after_cons]
      exact (configure_background _).trans (after_background (hh.mem_prepareForReuse hr hm))
    have hnew : (after [.configure model]).postButtonBackground = some (.named "test") := by
      rw [after_cons]
      exact configure_background _
    exact nomatch (hold.symm.trans (h []).2).trans hnew
  · intro hm cs
    have hafter : after (.configure model :: history) = after [.configure model] := by
      rw [after_cons, (hh.after_eq_made hm).2]
      rfl
    simp only [after_append, hafter, and_self]

/-! ## The image -/

/-- The completions for the post button. -/
def buttonLoads (cs : List Completion) : List (URL × Option Picture) :=
  cs.filterMap fun e => match e.target with
    | .profileImageView => none
    | .postButton => some (e.url, if e.succeeded then some (.loaded e.url) else none)

/-- What completions do to the post button. -/
theorem after_completed_postButton (cs : List Completion) (history : List CellEvent) :
    (after (cs.map .completed ++ history)).postButton =
      (after history).postButton.completeAll (buttonLoads cs) := by
  induction cs with
  | nil => rfl
  | cons e cs ih =>
    rw [List.map_cons, List.cons_append, after_cons]
    rcases e with ⟨_ | _, url, succeeded⟩
    · exact ih
    · change (after (cs.map .completed ++ history)).postButton.complete url _ = _
      rw [ih]
      rfl

theorem configure_postButton (c : NotificationLikeEventTableViewCell) (post : UserPost)
    (details : String) (user : User) : (c.configure ⟨.like post, details, user⟩).postButton =
      if isGoogle post.thumbnailImage then c.postButton
      else ⟨none, some post.thumbnailImage⟩ := by
  by_cases h : isGoogle post.thumbnailImage = true <;> simp [configure, h, Slot.set]

/-- **The image is that of a new cell exactly if** `configure` sets it, or the cell neither shows an
image nor is loading one. -/
theorem image_sameAsNew_iff (history : List CellEvent) (post : UserPost) (details : String)
    (user : User) : (∀ cs : List Completion,
        (after (cs.map .completed ++
            .configure ⟨.like post, details, user⟩ :: history)).postButton.image =
          (after (cs.map .completed ++
            [.configure ⟨.like post, details, user⟩])).postButton.image) ↔
      isGoogle post.thumbnailImage = false ∨ (after history).postButton = ⟨none, none⟩ := by
  simp only [after_completed_postButton, after_cons, step, configure_postButton]
  by_cases hg : isGoogle post.thumbnailImage = true
  · have hnew : ∀ cs, ((after []).postButton.completeAll (buttonLoads cs)).image = none := by
      intro cs
      rw [completeAll_of_idle (s := (after []).postButton) rfl]
      rfl
    simp only [hg, if_true, hnew, Bool.true_eq_false, false_or]
    constructor
    · intro h
      have himage : (after history).postButton.image = none := h []
      have hload : (after history).postButton.loading = none := by
        by_contra hne
        obtain ⟨url, hurl⟩ := Option.ne_none_iff_exists'.1 hne
        -- the load still in progress may arrive
        have harrive := h [⟨.postButton, url, true⟩]
        rw [show buttonLoads [⟨.postButton, url, true⟩] = [(url, some (.loaded url))] from rfl,
          Slot.completeAll, List.foldr_cons, List.foldr_nil, complete_of_loading hurl] at harrive
        exact absurd harrive (Option.some_ne_none _)
      rcases hslot : (after history).postButton with ⟨image, loading⟩
      rw [hslot] at himage hload
      exact congrArg₂ Slot.mk himage hload
    · intro h cs
      rw [h, completeAll_of_idle rfl]
  · simp [hg]

/-! ## Another post's thumbnail -/

/-- A post with a thumbnail of its own, and one with a `google.com` address. -/
def sunset : UserPost := { mockPost "@ruth" 0 0 0 with
  thumbnailImage := "https://img.co/sunset.png".toList }

def plain : UserPost := mockPost "@Emar" 0 0 0

/-- The cell has shown the sunset, and has been prepared for reuse. -/
def sunsetHistory : List CellEvent :=
  [.prepareForReuse, .completed ⟨.postButton, sunset.thumbnailImage, true⟩,
    .configure ⟨.like sunset, "@mat liked your new post", sunset.postOwner⟩]

theorem sunsetHistory_history : History sunsetHistory ∧ ready sunsetHistory = true :=
  ⟨.prepareForReuse (.completed _ (.configure .fresh rfl)) rfl, rfl⟩

/-- Configured with the plain post it shows the sunset, and opens the plain post. -/
theorem sunset_shown_for_plain :
    (after (.configure ⟨.like plain, "", plain.postOwner⟩ :: sunsetHistory)).postButton.image =
        some (.loaded sunset.thumbnailImage) ∧
      (after (.configure ⟨.like plain, "", plain.postOwner⟩ :: sunsetHistory)).didTapPostBtn =
        some plain ∧
      History sunsetHistory ∧ ready sunsetHistory = true ∧
        ¬ SameAsNew sunsetHistory ⟨.like plain, "", plain.postOwner⟩ := by
  have hshown : (after (.configure ⟨.like plain, "", plain.postOwner⟩ ::
      sunsetHistory)).postButton.image = some (.loaded sunset.thumbnailImage) := by decide
  refine ⟨hshown, by decide, sunsetHistory_history.1, sunsetHistory_history.2, fun h => ?_⟩
  have hnew : (after [.configure ⟨.like plain, "", plain.postOwner⟩]).postButton.image = none := by
    decide
  exact nomatch (hshown.symm.trans (h []).1).trans hnew

/-- Its first post is shown right; the same post a second time is not. -/
theorem sunset_sameAsNew : SameAsNew [] ⟨.like sunset, "", sunset.postOwner⟩ ∧
    ¬ SameAsNew sunsetHistory ⟨.like sunset, "", sunset.postOwner⟩ := by
  refine ⟨(sameAsNew_iff .fresh rfl _).2 fun _ => List.not_mem_nil, fun h => ?_⟩
  have hnever := (sameAsNew_iff sunsetHistory_history.1 sunsetHistory_history.2 _).1 h
  exact hnever _ (List.mem_cons_of_mem _ (List.mem_cons_of_mem _ List.mem_cons_self))

end NotificationLikeEventTableViewCell

end InstaGLAM
