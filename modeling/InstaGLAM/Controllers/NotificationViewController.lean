import InstaGLAM.Machinery.BusyTable
import InstaGLAM.Views.FollowCells
import InstaGLAM.Views.NotificationLikeEventTableViewCell

/-!
# Controllers/NotificationViewController — the notifications on screen

    model i ──▸ row i: a like cell or a follow cell ──tap──▸ the post of model i, or nothing

The table has cells of two classes, each recycled for its own class only.  While rows come and go
and profile photos arrive, on screen and in the pool, a row shows its own notification
(`rows_of_run`), and what the like buttons open is what the rows tapped are about, in order
(`pushed_of_run`).
-/

namespace InstaGLAM

open TableView BusyTable ImageSlot Trace

/-! ## The cells -/

/-- The reuse identifiers. -/
inductive NotificationCellIdentifier where
  | like | follow
  deriving DecidableEq

/-- A cell of the table, with whether its delegate is set; `plain` is a bare `UITableViewCell`. -/
inductive NotificationCell where
  | like (cell : NotificationLikeEventTableViewCell) (delegate : Bool)
  | follow (cell : NotificationFollowEventTableViewCell) (delegate : Bool)
  | plain

/-- The cells the table registers. -/
def notificationCells : CellRegistry Unit NotificationCellIdentifier NotificationCell where
  make
    | _, .like => .like .made false
    | _, .follow => .follow .made false
  prepareForReuse
    | .like cell delegate => .like cell.prepareForReuse delegate
    | .follow cell delegate => .follow cell.prepareForReuse delegate
    | .plain => .plain
  identifier
    | .like _ _ => some .like
    | .follow _ _ => some .follow
    | .plain => none

/-- A load of one of a cell's images completes. -/
def NotificationCell.completed : NotificationCell → Completion → NotificationCell
  | .like cell delegate, e => .like (cell.complete e) delegate
  | .follow cell delegate, ⟨.profileImageView, url, succeeded⟩ =>
    .follow (cell.other (.completed url succeeded)) delegate
  | .follow cell delegate, ⟨.postButton, _, _⟩ => .follow cell delegate
  | .plain, _ => .plain

/-! ## The screen -/

/-- A `PostDetailsViewController` on the navigation stack. -/
structure PushedPost where
  model : UserPost
  title : String
  deriving DecidableEq

/-- What the screen does to its navigation, the latest push first. -/
structure Navigation where
  pushed : List PushedPost
  largeTitleDisplayMode : LargeTitleDisplayMode

structure NotificationViewController where
  models : List UserNotification

namespace NotificationViewController

/-- `fetchNotifications()`; `dates` are the moments the user and the post are made. -/
def fetchNotifications (screen : NotificationViewController) (dates : Date × Date × Date) :
    NotificationViewController :=
  let post := mockPost "@ruth" dates.1 dates.2.1 dates.2.2
  let model := fun i : ℕ =>
    ({ type := if i % 2 = 0 then .follow .following else .like post
       details := if i % 2 = 0 then "@bro just followed you" else "@mat liked your new post"
       user := post.postOwner } : UserNotification)
  { screen with models := screen.models ++ (List.range 100).map model }

variable (screen : NotificationViewController)

/-- `tableView(_:cellForRowAt:)` -/
def cellForRowAt (dequeueReusableCell : NotificationCellIdentifier → NotificationCell)
    (ix : IndexPath) : Option NotificationCell := do
  let model ← screen.models[ix.row]?
  match model.type with
  | .like _ =>
    match dequeueReusableCell .like with
    | .like cell _ => return .like (cell.configure model) true
    | _ => return .plain
  | .follow _ =>
    match dequeueReusableCell .follow with
    | .follow cell _ => return .follow (cell.configure model) true
    | _ => return .plain

/-- The screen as a data source. -/
def dataSource : DataSource NotificationCellIdentifier NotificationCell where
  numberOfSections := 1
  numberOfRows _ := some screen.models.length
  cellForRow := screen.cellForRowAt

/-- `didTapRelatePostsBtn(model:)` -/
def didTapRelatePostsBtn (navigation : Navigation) (model : UserNotification) : Navigation :=
  match model.type with
  | .like post =>
    { navigation with
      pushed := ⟨post, post.postType.rawValue⟩ :: navigation.pushed
      largeTitleDisplayMode := .never }
  | .follow _ => navigation

/-- `didTapFollowOrUnfollowBtn(model:)` only prints. -/
def didTapFollowOrUnfollowBtn (navigation : Navigation) (_model : UserNotification) : Navigation :=
  navigation

/-- The button of a cell is tapped: a cell with a model tells its delegate. -/
def tap (navigation : Navigation) (cell : NotificationCell) (_ : Unit) :
    Option (NotificationCell × Navigation) :=
  match cell with
  | .like c delegate =>
    match c.model with
    | some model =>
      some (cell, if delegate then didTapRelatePostsBtn navigation model else navigation)
    | none => some (cell, navigation)
  | .follow c delegate =>
    match c.model with
    | some model =>
      some (cell, if delegate then didTapFollowOrUnfollowBtn navigation model else navigation)
    | none => some (cell, navigation)
  | .plain => none

/-- The screen in use. -/
def live : Busy Unit NotificationCellIdentifier NotificationCell Navigation Unit Completion where
  registry := notificationCells
  dataSource _ := screen.dataSource
  touch := tap
  happen := NotificationCell.completed

/-! ## What a row shows -/

/-- The cell is of the class for `model` and shows it, with its user's profile photo or none; its
button tells the screen of `model`. -/
def Shows (model : UserNotification) : NotificationCell → Prop
  | .like c delegate => (∃ post, model.type = .like post) ∧ delegate = true ∧
      c.model = some model ∧ c.detailsLabel = some model.details ∧
      c.profileImageView.Only .loaded model.user.profilePhoto
  | .follow c delegate => (∃ state, model.type = .follow state) ∧ delegate = true ∧
      c.model = some model ∧
      c.look = (NotificationFollowEventTableViewCell.made.configure model).look ∧
      c.profileImageView.Only .loaded model.user.profilePhoto
  | .plain => False

/-- A dequeued cell is of the class asked for, and a follow cell has a button without background. -/
def Dequeued : NotificationCellIdentifier → NotificationCell → Prop
  | .like, cell => ∃ c delegate, cell = .like c delegate
  | .follow, cell => ∃ c delegate, cell = .follow c delegate ∧ c.Blank

variable {screen} {model : UserNotification} {navigation : Navigation} {cell : NotificationCell}
  {d : NotificationCellIdentifier → NotificationCell} {ix : IndexPath}
  {trace : List (Event NotificationCell Unit Completion)} {T : Table NotificationCell × Navigation}

theorem shows_configure_like (c : NotificationLikeEventTableViewCell) {post : UserPost}
    (h : model.type = .like post) : Shows model (.like (c.configure model) true) := by
  obtain ⟨type, details, user⟩ := model
  obtain rfl : type = .like post := h
  by_cases hgoogle : NotificationLikeEventTableViewCell.isGoogle post.thumbnailImage = true
  · have hconfigure : c.configure ⟨.like post, details, user⟩ = _ := if_pos hgoogle
    rw [hconfigure]
    exact ⟨⟨post, rfl⟩, rfl, rfl, rfl, only_set _ _ c.profileImageView⟩
  · have hconfigure : c.configure ⟨.like post, details, user⟩ = _ := if_neg hgoogle
    rw [hconfigure]
    exact ⟨⟨post, rfl⟩, rfl, rfl, rfl, only_set _ _ c.profileImageView⟩

theorem shows_configure_follow {c : NotificationFollowEventTableViewCell} (hc : c.Blank)
    {state : FollowState} (h : model.type = .follow state) :
    Shows model (.follow (c.configure model) true) := by
  obtain ⟨type, details, user⟩ := model
  obtain rfl : type = .follow state := h
  have hconfigure : ((c.configure ⟨.follow state, details, user⟩).look, _) = (_, _) :=
    NotificationFollowEventTableViewCell.look_configure hc
  obtain ⟨hlook, htap⟩ := Prod.mk.inj hconfigure
  refine ⟨⟨state, rfl⟩, rfl, htap, hlook, ?_⟩
  cases state <;> exact only_set _ _ c.profileImageView

/-- Every row of the data source gets a cell that shows it. -/
theorem exists_cellForRowAt (hd : ∀ x, Dequeued x (d x))
    (hmodel : screen.models[ix.row]? = some model) :
    ∃ cell, screen.cellForRowAt d ix = some cell ∧ Shows model cell := by
  cases htype : model.type with
  | like post =>
    obtain ⟨c, delegate, hc⟩ := hd .like
    refine ⟨_, ?_, shows_configure_like c htype⟩
    simp [cellForRowAt, hmodel, htype, hc]
  | follow state =>
    obtain ⟨c, delegate, hc, hblank⟩ := hd .follow
    refine ⟨_, ?_, shows_configure_follow hblank htype⟩
    simp [cellForRowAt, hmodel, htype, hc]

/-- A load that completes leaves what a cell shows, but for the photo of its own user. -/
theorem shows_completed (h : Shows model cell) (e : Completion) :
    Shows model (cell.completed e) := by
  obtain ⟨target, url, succeeded⟩ := e
  have hresult : ∀ v, (if succeeded then some (Picture.loaded url) else none) = some v →
      v = .loaded url := by
    intro v hv
    cases succeeded
    · exact nomatch hv
    · exact (Option.some.inj hv).symm
  cases cell with
  | like c delegate =>
    obtain ⟨hclass, hdelegate, hmodel, hdetails, hphoto⟩ := h
    cases target with
    | profileImageView =>
      exact ⟨hclass, hdelegate, hmodel, hdetails, only_complete hphoto url hresult⟩
    | postButton => exact ⟨hclass, hdelegate, hmodel, hdetails, hphoto⟩
  | follow c delegate =>
    obtain ⟨hclass, hdelegate, hmodel, hlook, hphoto⟩ := h
    cases target with
    | profileImageView => exact ⟨hclass, hdelegate, hmodel, hlook, only_complete hphoto url hresult⟩
    | postButton => exact ⟨hclass, hdelegate, hmodel, hlook, hphoto⟩
  | plain => exact h

/-- What a row of the table is to show. -/
def RowShows (screen : NotificationViewController) (ix : IndexPath)
    (cell : NotificationCell) : Prop :=
  ∃ model, screen.models[ix.row]? = some model ∧ Shows model cell

theorem tap_of_shows (h : Shows model cell) {cell' : NotificationCell} {navigation' : Navigation}
    (htap : tap navigation cell () = some (cell', navigation')) :
    cell' = cell ∧ navigation' = didTapRelatePostsBtn navigation model := by
  cases cell with
  | like c delegate =>
    obtain ⟨-, rfl, hmodel, -⟩ := h
    rw [tap, hmodel] at htap
    obtain ⟨rfl, rfl⟩ := Prod.mk.inj (Option.some.inj htap)
    exact ⟨rfl, rfl⟩
  | follow c delegate =>
    obtain ⟨⟨state, htype⟩, rfl, hmodel, -⟩ := h
    rw [tap, hmodel] at htap
    obtain ⟨rfl, rfl⟩ := Prod.mk.inj (Option.some.inj htap)
    refine ⟨rfl, ?_⟩
    rw [didTapRelatePostsBtn, htype]
    rfl
  | plain => exact h.elim

theorem keeps (screen : NotificationViewController) :
    Keeps screen.live Dequeued (RowShows screen) fun _ => True where
  made _ x := by
    cases x with
    | like => exact ⟨_, _, rfl⟩
    | follow => exact ⟨_, _, rfl, rfl⟩
  prepared c x _ hid := by
    cases c with
    | like c delegate =>
      obtain rfl := Option.some.inj hid
      exact ⟨_, _, rfl⟩
    | follow c delegate =>
      obtain rfl := Option.some.inj hid
      exact ⟨_, _, rfl, rfl⟩
    | plain => exact nomatch hid
  cell _ d ix c hd hcell := by
    cases hmodel : screen.models[ix.row]? with
    | none => simp [live, dataSource, cellForRowAt, hmodel] at hcell
    | some model =>
      obtain ⟨c', hc', hshows⟩ := exists_cellForRowAt hd hmodel
      obtain rfl := Option.some.inj (hc'.symm.trans hcell)
      exact ⟨model, hmodel, hshows⟩
  gone _ _ _ := trivial
  touched _ ix c _ c' _ := by
    rintro ⟨model, hmodel, hshows⟩ htap
    obtain ⟨rfl, -⟩ := tap_of_shows hshows htap
    exact ⟨model, hmodel, hshows⟩
  shown _ _ x := fun ⟨model, hmodel, hshows⟩ => ⟨model, hmodel, shows_completed hshows x⟩
  pooled _ _ _ := trivial

/-! ## Every run -/

/-- **A row shows its own notification**, in a cell of the right class that tells the screen, with
the profile photo of its own user or none, in whatever cells other rows have left. -/
theorem rows_of_run (screen : NotificationViewController)
    (h : Run (Step screen.live) (Table.empty, navigation) trace T)
    (hcell : T.1.shown ix = some cell) :
    ∃ model, screen.models[ix.row]? = some model ∧ Shows model cell :=
  ((keeps screen).run h).shown ix cell hcell

/-- The post that a tap on a row is to open. -/
def opens (screen : NotificationViewController) (ix : IndexPath) (_ : Unit) : Option PushedPost :=
  match screen.models[ix.row]? with
  | some ⟨.like post, _, _⟩ => some ⟨post, post.postType.rawValue⟩
  | _ => none

/-- **The like buttons open the posts of the rows tapped**, in order and no others. -/
theorem pushed_of_run (screen : NotificationViewController)
    (h : Run (Step screen.live) (Table.empty, navigation) trace T) :
    T.2.pushed = trace.filterMap (said (opens screen)) ++ navigation.pushed := by
  refine log_of_run (keeps screen) (opens screen) Navigation.pushed ?_ h
  rintro navigation ix c ⟨⟩ c' navigation' ⟨⟨type, details, user⟩, hmodel, hshows⟩ htap
  rw [(tap_of_shows hshows htap).2, opens, hmodel]
  cases type <;> rfl

/-! ## The mock notifications -/

/-- The screen after `viewDidLoad`, with all moments 0. -/
def mockNotifications : NotificationViewController :=
  NotificationViewController.fetchNotifications ⟨[]⟩ (0, 0, 0)

/-- Row 1 comes on screen. -/
theorem exists_row : ∃ t cell, Run (Step mockNotifications.live) (Table.empty, ⟨[], .automatic⟩)
    [.live (.scroll (.appeared ⟨0, 1⟩ cell))] (t, ⟨[], .automatic⟩) ∧
      t.shown ⟨0, 1⟩ = some cell := by
  obtain ⟨cell, hcell, -⟩ := @exists_cellForRowAt mockNotifications _
    (notificationCells.make ()) ⟨0, 1⟩ ((keeps mockNotifications).made ()) rfl
  obtain ⟨t, hrun, hshown⟩ := BusyTable.exists_appeared (m := ()) mockNotifications.live
    ⟨[], .automatic⟩ ⟨Nat.one_pos, 100, rfl, by decide⟩ hcell
  exact ⟨t, cell, hrun, hshown⟩

/-- It shows the like it is about. -/
theorem row_shows : ∃ t cell, Run (Step mockNotifications.live) (Table.empty, ⟨[], .automatic⟩)
    [.live (.scroll (.appeared ⟨0, 1⟩ cell))] (t, ⟨[], .automatic⟩) ∧
      ∃ model, mockNotifications.models[1]? = some model ∧ Shows model cell := by
  obtain ⟨t, cell, hrun, hshown⟩ := exists_row
  exact ⟨t, cell, hrun, rows_of_run mockNotifications hrun hshown⟩

/-- Tapped, it opens the mock post. -/
theorem row_opens : ∃ T cell, Run (Step mockNotifications.live) (Table.empty, ⟨[], .automatic⟩)
    [.live (.touched ⟨0, 1⟩ ()), .live (.scroll (.appeared ⟨0, 1⟩ cell))] T ∧
      T.2.pushed = [⟨mockPost "@ruth" 0 0 0, "Photo"⟩] := by
  obtain ⟨t, cell, hrun, hshown⟩ := exists_row
  obtain ⟨model, -, hshows⟩ := ((keeps mockNotifications).run hrun).shown _ _ hshown
  obtain ⟨cell', navigation', htap⟩ : ∃ cell' navigation',
      tap ⟨[], .automatic⟩ cell () = some (cell', navigation') := by
    match cell, hshows with
    | .like c delegate, ⟨_, _, hmodel, _⟩ => exact ⟨_, _, by rw [tap, hmodel]⟩
    | .follow c delegate, ⟨_, _, hmodel, _⟩ => exact ⟨_, _, by rw [tap, hmodel]⟩
  obtain ⟨t', hrun', -⟩ := BusyTable.exists_touched hrun hshown htap
  exact ⟨_, cell, hrun', (pushed_of_run mockNotifications hrun').trans rfl⟩

end NotificationViewController

end InstaGLAM
