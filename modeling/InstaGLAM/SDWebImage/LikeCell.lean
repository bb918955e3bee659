import InstaGLAM.SDWebImage.Places
import InstaGLAM.Views.NotificationLikeEventTableViewCell

/-!
# SDWebImage/LikeCell — the like cell over the manager

    configure, prepareForReuse ──▸ the manager, at two of its places ──view──▸ the cell with slots

`Views/NotificationLikeEventTableViewCell` takes an image view to be a slot whose loads complete at
any time.  Here its two image views are two places of the shared manager, beside any number of
others.  Each run looks like a history of the cell, with the same calls in the same order
(`likeCell_refines`), so what a history says of the pictures (`last_of_after`) holds over the
manager, too (`pictures_of_run`).
-/

namespace InstaGLAM.SDWebImage

open ImageSlot Trace

variable {ι : Type*} [DecidableEq ι]

/-! ## Completions, as events of the cell -/

/-- A completion that brings the picture of its `URL`, or none. -/
def load (c : URL × Bool) : URL × Option Picture := (c.1, if c.2 then some (.loaded c.1) else none)

/-- Completions alone are completions that bring the picture of their `URL`, or none. -/
theorem exists_loads {es : List (SlotEvent URL Picture)}
    (hpictures : ∀ url picture, .complete url (some picture) ∈ es → picture = .loaded url)
    (hcommands : es.filter SlotEvent.isCommand = []) :
    ∃ cs : List (URL × Bool), ∀ s : Slot URL Picture,
      es.foldr (fun e s => s.step e) s = s.completeAll (cs.map load) := by
  induction es with
  | nil => exact ⟨[], fun _ => rfl⟩
  | cons e es ih =>
    cases e with
    | set url => exact nomatch hcommands
    | setImage image => exact nomatch hcommands
    | complete url result =>
      obtain ⟨cs, hcs⟩ :=
        ih (fun url p hmem => hpictures url p (List.mem_cons_of_mem _ hmem)) hcommands
      have hload : load (url, result.isSome) = (url, result) := by
        cases result with
        | none => rfl
        | some picture =>
          rw [hpictures url picture List.mem_cons_self]
          rfl
      refine ⟨(url, result.isSome) :: cs, fun s => ?_⟩
      rw [List.foldr_cons, hcs, List.map_cons, hload]
      rfl

/-- After a `set` among completions, only the later ones count. -/
theorem exists_loads_of_set {es : List (SlotEvent URL Picture)} {url : URL}
    (hpictures : ∀ url picture, .complete url (some picture) ∈ es → picture = .loaded url)
    (hcommands : es.filter SlotEvent.isCommand = [.set url]) :
    ∃ cs : List (URL × Bool), ∀ s : Slot URL Picture,
      es.foldr (fun e s => s.step e) s = (s.set url).completeAll (cs.map load) := by
  obtain ⟨later, earlier, rfl, hlater, -, -⟩ := List.filter_eq_cons_iff.1 hcommands
  have hquiet : later.filter SlotEvent.isCommand = [] := List.filter_eq_nil_iff.2 hlater
  obtain ⟨cs, hcs⟩ := exists_loads
    (fun url p hmem => hpictures url p (List.mem_append_left _ hmem)) hquiet
  exact ⟨cs, fun s => by rw [List.foldr_append, hcs]; rfl⟩

/-- The events of the cell for completions at one of its image views. -/
def completions (target : LoadTarget) (cs : List (URL × Bool)) : List CellEvent :=
  cs.map fun c => .completed ⟨target, c.1, c.2⟩

open NotificationLikeEventTableViewCell in
theorem after_postButton (cs : List (URL × Bool)) (history : List CellEvent) :
    after (completions .postButton cs ++ history) =
      { after history with
        postButton := (after history).postButton.completeAll (cs.map load) } := by
  induction cs with
  | nil => rfl
  | cons c cs ih =>
    have hstep : after (completions .postButton (c :: cs) ++ history) =
        (after (completions .postButton cs ++ history)).complete ⟨.postButton, c.1, c.2⟩ := rfl
    rw [hstep, ih]
    rfl

open NotificationLikeEventTableViewCell in
/-- Completions at both image views. -/
theorem after_completions (cs cs' : List (URL × Bool)) (history : List CellEvent) :
    after (completions .profileImageView cs ++ (completions .postButton cs' ++ history)) =
      { after history with
        profileImageView := (after history).profileImageView.completeAll (cs.map load)
        postButton := (after history).postButton.completeAll (cs'.map load) } := by
  induction cs with
  | nil => exact after_postButton cs' history
  | cons c cs ih =>
    have hstep : after (completions .profileImageView (c :: cs) ++
          (completions .postButton cs' ++ history)) =
        (after (completions .profileImageView cs ++ (completions .postButton cs' ++
          history))).complete ⟨.profileImageView, c.1, c.2⟩ := rfl
    rw [hstep, ih]
    rfl

/-! ## The cell over the manager -/

/-- The cell, with the manager instead of its images. -/
structure LikeCell (ι : Type*) where
  web : WebCache ι
  model : Option UserNotification
  detailsLabel : Option String
  postButtonBackground : Option Picture

/-- The two places of the cell: its profile image view, and its post button in the normal state. -/
structure CellPlaces (ι : Type*) where
  profileImageView : ι
  postButton : ι
  apart : profileImageView ≠ postButton

/-- What happens: calls of the cell, and anything that is not done to its two places. -/
inductive LikeCellEvent (ι : Type*) where
  | configure (model : UserNotification)
  | prepareForReuse
  | web (e : Event ι)

namespace LikeCell

variable (P : CellPlaces ι) {W W' : LikeCell ι} {trace : List (LikeCellEvent ι)}

/-- The cell with slots. -/
def view (W : LikeCell ι) : NotificationLikeEventTableViewCell :=
  ⟨W.model, W.detailsLabel, W.web.slot P.profileImageView, W.web.slot P.postButton,
    W.postButtonBackground⟩

/-- `configure(with:)` -/
def configure (W : LikeCell ι) (model : UserNotification) : LikeCell ι :=
  let W := { W with model := some model, detailsLabel := some model.details
                    web := W.web.sdSetImage P.profileImageView model.user.profilePhoto }
  match model.type with
  | .like post =>
    if NotificationLikeEventTableViewCell.isGoogle post.thumbnailImage then W
    else { W with web := W.web.sdSetImage P.postButton post.thumbnailImage }
  | .follow _ => W

/-- `prepareForReuse()` -/
def prepareForReuse (W : LikeCell ι) : LikeCell ι :=
  { W with postButtonBackground := none, detailsLabel := none
           web := W.web.setImage P.profileImageView none }

/-- One step. -/
inductive Step : LikeCell ι → LikeCellEvent ι → LikeCell ι → Prop
  | configure {c model} : Step c (.configure model) (c.configure P model)
  | prepareForReuse {c} : Step c .prepareForReuse (c.prepareForReuse P)
  | web {c e w} : SDWebImage.Step c.web e w → e.command P.profileImageView = none →
      e.command P.postButton = none → Step c (.web e) { c with web := w }

/-- A new cell, created while the manager is in use. -/
def created (w : WebCache ι) : LikeCell ι :=
  ⟨w, none, some "@Emar just liked your new post", some (.named "test")⟩

/-- The calls of the cell in a run. -/
def calls (trace : List (LikeCellEvent ι)) : List CellEvent :=
  trace.filterMap fun
    | .configure model => some (.configure model)
    | .prepareForReuse => some .prepareForReuse
    | .web _ => none

/-- The calls among the events of a history. -/
def isCall : CellEvent → Bool
  | .configure _ | .prepareForReuse => true
  | .completed _ => false

/-! ## One step -/

section Seen

variable {w w' : WebCache ι} {e : Event ι} {v : ι}

/-- A place that is given no command takes completions in. -/
theorem exists_completeAll (h : w.Sound) (hs : SDWebImage.Step w e w')
    (hnone : e.command v = none) :
    ∃ cs : List (URL × Bool), w'.slot v = (w.slot v).completeAll (cs.map load) := by
  obtain ⟨es, hseen⟩ := (slot_step h hs).2 v
  obtain ⟨cs, hcs⟩ := exists_loads hseen.pictures (by rw [hseen.commands, hnone]; rfl)
  exact ⟨cs, hseen.slot.trans (hcs _)⟩

/-- A place that is set takes completions in after that. -/
theorem exists_completeAll_set (h : w.Sound) (view : ι) (url : URL) :
    (w.sdSetImage view url).Sound ∧ (∃ cs : List (URL × Bool),
      (w.sdSetImage view url).slot view = ((w.slot view).set url).completeAll (cs.map load)) ∧
    ∀ v, v ≠ view → ∃ cs : List (URL × Bool),
      (w.sdSetImage view url).slot v = (w.slot v).completeAll (cs.map load) := by
  have hs : SDWebImage.Step w (.sdSetImage view url) (w.sdSetImage view url) := .sdSetImage
  obtain ⟨hsound, hseen⟩ := slot_step h hs
  refine ⟨hsound, ?_, fun v hv => exists_completeAll h hs (if_neg hv)⟩
  obtain ⟨es, hes⟩ := hseen view
  have hcommand : (Event.sdSetImage view url).command view = some (.set url) := if_pos rfl
  obtain ⟨cs, hcs⟩ := exists_loads_of_set hes.pictures (by rw [hes.commands, hcommand]; rfl)
  exact ⟨cs, hes.slot.trans (hcs _)⟩

end Seen

/-- **One step of the cell over the manager** is its call, if it is one, and completions. -/
theorem exists_completions (h : W.web.Sound) {e : LikeCellEvent ι} (hs : Step P W e W')
    {history : List CellEvent}
    (hview : W.view P = NotificationLikeEventTableViewCell.after history) :
    W'.web.Sound ∧ ∃ cs cs', W'.view P = NotificationLikeEventTableViewCell.after
      (completions .profileImageView cs ++ (completions .postButton cs' ++
        (calls [e] ++ history))) := by
  simp only [after_completions]
  cases hs with
  | web hs hprofile hbutton =>
    obtain ⟨cs, hcs⟩ := exists_completeAll h hs hprofile
    obtain ⟨cs', hcs'⟩ := exists_completeAll h hs hbutton
    have hquiet : ∀ e : Event ι, calls [.web e] ++ history = history := fun _ => rfl
    refine ⟨(slot_step h hs).1, cs, cs', ?_⟩
    rw [hquiet, ← hview]
    simp only [view, hcs, hcs']
  | prepareForReuse =>
    have hprofile := WebCache.slot_setImage W.web P.profileImageView none P.profileImageView
    have hbutton := WebCache.slot_setImage W.web P.profileImageView none P.postButton
    rw [if_pos rfl] at hprofile
    rw [if_neg P.apart.symm] at hbutton
    have hcall : NotificationLikeEventTableViewCell.after (calls [(.prepareForReuse :
        LikeCellEvent ι)] ++ history) = (W.view P).prepareForReuse := by
      rw [hview]
      rfl
    refine ⟨(slot_step h .setImage).1, [], [], ?_⟩
    rw [hcall]
    simp only [view, prepareForReuse, hprofile, hbutton]
    rfl
  | @configure model =>
    have hcall : NotificationLikeEventTableViewCell.after (calls [(.configure model :
        LikeCellEvent ι)] ++ history) = (W.view P).configure model := by
      rw [hview]
      rfl
    obtain ⟨hsound, ⟨cs, hcs⟩, hothers⟩ :=
      exists_completeAll_set h P.profileImageView model.user.profilePhoto
    obtain ⟨cs', hcs'⟩ := hothers P.postButton P.apart.symm
    rw [hcall]
    rcases model with ⟨⟨post⟩ | _, details, user⟩
    · cases hgoogle : NotificationLikeEventTableViewCell.isGoogle post.thumbnailImage with
      | true =>
        -- the post button goes on loading what it was set to before
        refine ⟨by simpa [configure, hgoogle] using hsound, cs, cs', ?_⟩
        simp only [view, configure, NotificationLikeEventTableViewCell.configure, hgoogle, if_true,
          hcs, hcs']
      | false =>
        obtain ⟨hsound', ⟨cs₂', hcs₂'⟩, hothers'⟩ :=
          exists_completeAll_set hsound P.postButton post.thumbnailImage
        obtain ⟨cs₂, hcs₂⟩ := hothers' P.profileImageView P.apart
        refine ⟨by simpa [configure, hgoogle] using hsound', cs₂ ++ cs, cs₂', ?_⟩
        simp only [view, configure, NotificationLikeEventTableViewCell.configure, hgoogle,
          Bool.false_eq_true, if_false, hcs, hcs₂, hcs₂', List.map_append, completeAll_append]
        rfl
    · refine ⟨hsound, cs, cs', ?_⟩
      simp only [view, configure, NotificationLikeEventTableViewCell.configure, hcs, hcs']

/-! ## Runs -/

omit [DecidableEq ι] in
theorem calls_cons (e : LikeCellEvent ι) (trace : List (LikeCellEvent ι)) :
    calls (e :: trace) = calls [e] ++ calls trace := by
  cases e <;> rfl

omit [DecidableEq ι] in
theorem filter_calls (trace : List (LikeCellEvent ι)) :
    (calls trace).filter isCall = calls trace := by
  rw [List.filter_eq_self]
  intro call hcall
  obtain ⟨e, -, he⟩ := List.mem_filterMap.1 hcall
  cases e with
  | configure model => exact Option.some.inj he ▸ rfl
  | prepareForReuse => exact Option.some.inj he ▸ rfl
  | web e => exact nomatch he

theorem filter_completions (target : LoadTarget) (cs : List (URL × Bool)) :
    (completions target cs).filter isCall = [] := by
  rw [List.filter_eq_nil_iff]
  intro call hcall
  obtain ⟨c, -, rfl⟩ := List.mem_map.1 hcall
  exact Bool.false_ne_true

/-- A new cell: its profile image view shows a picture of the app, its post button nothing, and
neither has been set. -/
structure New (w : WebCache ι) : Prop where
  sound : w.Sound
  profileImageView : w.slot P.profileImageView = ⟨some (.named "test"), none⟩
  postButton : w.slot P.postButton = ⟨none, none⟩

/-- **The cell over the manager is the cell with slots**: each run looks like a history with the
same calls, whatever is done to other places. -/
theorem likeCell_refines {w : WebCache ι} (hnew : New P w)
    (h : Run (Step P) (created w) trace W) : W.web.Sound ∧ ∃ history,
      history.filter isCall = calls trace ∧
        W.view P = NotificationLikeEventTableViewCell.after history := by
  refine h.invariant (I := fun trace W => W.web.Sound ∧ ∃ history,
    history.filter isCall = calls trace ∧
      W.view P = NotificationLikeEventTableViewCell.after history) ⟨hnew.sound, [], rfl, ?_⟩ ?_
  · simp only [view, created, hnew.profileImageView, hnew.postButton]
    rfl
  · rintro trace W e W' ⟨hsound, history, hcalls, hview⟩ hs
    obtain ⟨hsound', cs, cs', hview'⟩ := exists_completions P hsound hs hview
    refine ⟨hsound', _, ?_, hview'⟩
    rw [List.filter_append, List.filter_append, List.filter_append, filter_completions,
      filter_completions, filter_calls, hcalls, calls_cons e trace]
    rfl

/-! ## What the cell shows -/

section Shown

open NotificationLikeEventTableViewCell

/-- The thumbnail that the post button was last set to. -/
def lastThumbnail : List CellEvent → Option URL
  | [] => none
  | .configure ⟨.like post, _, _⟩ :: history =>
    if isGoogle post.thumbnailImage then lastThumbnail history else some post.thumbnailImage
  | _ :: history => lastThumbnail history

/-- The photo that the profile image view was last set to. -/
def lastPhoto : List CellEvent → Option URL
  | [] => none
  | .configure model :: _ => some model.user.profilePhoto
  | _ :: history => lastPhoto history

/-- **What the two image views show** after a history, and what they are loading. -/
theorem last_of_after (history : List CellEvent) :
    (after history).postButton.Last .loaded none (lastThumbnail history) ∧
      (after history).profileImageView.Last .loaded (some (.named "test")) (lastPhoto history) := by
  induction history with
  | nil => exact ⟨⟨rfl, fun _ hv => (nomatch hv)⟩, ⟨rfl, fun _ hv => hv⟩⟩
  | cons e history ih =>
    obtain ⟨hbutton, hprofile⟩ := ih
    rw [after_cons]
    cases e with
    | prepareForReuse => exact ⟨hbutton, last_clear hprofile⟩
    | configure model =>
      rcases model with ⟨⟨post⟩ | _, details, user⟩
      · cases hgoogle : isGoogle post.thumbnailImage with
        | true =>
          simp only [step, NotificationLikeEventTableViewCell.configure, lastThumbnail, hgoogle,
            if_true]
          exact ⟨hbutton, only_set ..⟩
        | false =>
          simp only [step, NotificationLikeEventTableViewCell.configure, lastThumbnail, hgoogle,
            Bool.false_eq_true, if_false]
          exact ⟨only_set .., only_set ..⟩
      · exact ⟨hbutton, only_set _ _ (after history).profileImageView⟩
    | completed c =>
      have hpicture : ∀ v, (if c.succeeded then some (Picture.loaded c.url) else none) = some v →
          v = .loaded c.url := by
        intro v hv
        split_ifs at hv
        exact (Option.some.inj hv).symm
      rcases c with ⟨_ | _, url, succeeded⟩
      · exact ⟨hbutton, last_complete hprofile url hpicture⟩
      · exact ⟨last_complete hbutton url hpicture, hprofile⟩

theorem opened_complete (c : NotificationLikeEventTableViewCell) (e : Completion) :
    (c.complete e).didTapPostBtn = c.didTapPostBtn := by
  rcases e with ⟨_ | _, url, succeeded⟩ <;> rfl

theorem opened_configure (c : NotificationLikeEventTableViewCell) (post : UserPost)
    (details : String) (user : User) :
    (c.configure ⟨.like post, details, user⟩).didTapPostBtn = some post := by
  cases hgoogle : isGoogle post.thumbnailImage <;>
    simp [NotificationLikeEventTableViewCell.configure, hgoogle, didTapPostBtn]

/-- The post that a tap opens, if its thumbnail is not left out, is the one that was set last. -/
theorem lastThumbnail_of_opened {history : List CellEvent} {post : UserPost}
    (hopened : (after history).didTapPostBtn = some post)
    (hgoogle : isGoogle post.thumbnailImage = false) :
    lastThumbnail history = some post.thumbnailImage := by
  induction history with
  | nil => exact absurd hopened.symm (Option.some_ne_none post)
  | cons e history ih =>
    rw [after_cons] at hopened
    cases e with
    | prepareForReuse => exact ih hopened
    | completed c => exact ih ((opened_complete _ c).symm.trans hopened)
    | configure model =>
      rcases model with ⟨⟨post'⟩ | _, details, user⟩
      · obtain rfl := Option.some.inj ((opened_configure ..).symm.trans hopened)
        simp [lastThumbnail, hgoogle]
      · exact absurd hopened.symm (Option.some_ne_none post)

theorem lastThumbnail_filter (history : List CellEvent) :
    lastThumbnail (history.filter isCall) = lastThumbnail history := by
  induction history with
  | nil => rfl
  | cons e history ih =>
    cases e with
    | configure model =>
      rcases model with ⟨⟨post⟩ | _, details, user⟩
      · exact congrArg (fun last => if isGoogle post.thumbnailImage then last
          else some post.thumbnailImage) ih
      · exact ih
    | prepareForReuse | completed c => exact ih

theorem lastPhoto_filter (history : List CellEvent) :
    lastPhoto (history.filter isCall) = lastPhoto history := by
  induction history with
  | nil => rfl
  | cons e history ih =>
    cases e with
    | configure model => rfl
    | prepareForReuse | completed c => exact ih

variable {ι : Type*} [DecidableEq ι] {P : CellPlaces ι} {W : LikeCell ι}
  {trace : List (LikeCellEvent ι)} {w : WebCache ι}

/-- **What a like cell shows over the busy manager**: the photo of the user it was configured with
last, and the thumbnail it was last set to; so the thumbnail is that of the post a tap opens, unless
`configure` has left that out. -/
theorem pictures_of_run (hnew : New P w) (h : Run (Step P) (created w) trace W) :
    (∀ picture, W.web.image P.profileImageView = some picture →
      picture = (lastPhoto (calls trace)).elim (.named "test") .loaded) ∧
    (∀ picture, W.web.image P.postButton = some picture →
      (lastThumbnail (calls trace)).map .loaded = some picture) ∧
    ∀ post picture, (W.view P).didTapPostBtn = some post →
      isGoogle post.thumbnailImage = false → W.web.image P.postButton = some picture →
        picture = .loaded post.thumbnailImage := by
  obtain ⟨-, history, hcalls, hview⟩ := likeCell_refines P hnew h
  obtain ⟨hbutton, hprofile⟩ := last_of_after history
  rw [← hcalls, lastPhoto_filter, lastThumbnail_filter]
  have himage : ∀ picture, W.web.image P.postButton = some picture →
      (lastThumbnail history).map .loaded = some picture := by
    intro picture hpicture
    have hshown : (after history).postButton.image = some picture :=
      (congrArg (fun c => c.postButton.image) hview).symm.trans hpicture
    cases hlast : lastThumbnail history with
    | none =>
      rw [hlast] at hbutton
      exact nomatch hbutton.2 picture hshown
    | some url =>
      rw [hlast] at hbutton
      exact congrArg some (hbutton.1 picture hshown).symm
  refine ⟨fun picture hpicture => ?_, himage, fun post picture hopened hgoogle hpicture => ?_⟩
  · have hshown : (after history).profileImageView.image = some picture :=
      (congrArg (fun c => c.profileImageView.image) hview).symm.trans hpicture
    cases hlast : lastPhoto history with
    | none =>
      rw [hlast] at hprofile
      exact (Option.some.inj (hprofile.2 picture hshown)).symm
    | some url =>
      rw [hlast] at hprofile
      exact hprofile.1 picture hshown
  · have hlast := himage picture hpicture
    rw [lastThumbnail_of_opened (hview ▸ hopened) hgoogle] at hlast
    exact (Option.some.inj hlast).symm

/-- The places of one cell. -/
def onePlaces : CellPlaces Bool := ⟨true, false, by decide⟩

/-- The manager with a new cell. -/
def withOneCell : WebCache Bool := WebCache.initial.setImage true (some (.named "test"))

theorem new_withOneCell : New onePlaces withOneCell where
  sound := (slot_step WebCache.sound_initial .setImage).1
  profileImageView := rfl
  postButton := rfl

/-- The sunset arrives, and is the post a tap opens. -/
theorem sunset_over_manager : ∃ W : LikeCell Bool, Run (Step onePlaces) (created withOneCell)
    [.web (.downloaded 1 .succeeded), .web (.cacheAnswered 1), .web (.diskQueried 1),
      .configure ⟨.like sunset, "@mat liked your new post", sunset.postOwner⟩] W ∧
    (W.view onePlaces).didTapPostBtn = some sunset ∧
    W.web.image false = some (.loaded sunset.thumbnailImage) ∧
    ∀ picture, W.web.image false = some picture → picture = .loaded sunset.thumbnailImage := by
  have hset : Run (Step onePlaces) (created withOneCell)
      [.configure ⟨.like sunset, "@mat liked your new post", sunset.postOwner⟩] _ :=
    Run.nil.cons .configure
  have hquery := hset.cons (.web (@SDWebImage.Step.diskQueried _ _ _ 1 _ rfl rfl) rfl rfl)
  have hanswer := hquery.cons (.web (@SDWebImage.Step.cacheAnswered _ _ _ 1 _ none rfl rfl) rfl rfl)
  have hloaded := hanswer.cons
    (.web (@SDWebImage.Step.downloaded _ _ _ 1 _ .succeeded rfl rfl) rfl rfl)
  refine ⟨_, hloaded, rfl, rfl, fun picture hpicture => ?_⟩
  exact (pictures_of_run new_withOneCell hloaded).2.2 sunset picture rfl (by decide) hpicture

end Shown

end LikeCell

end InstaGLAM.SDWebImage
