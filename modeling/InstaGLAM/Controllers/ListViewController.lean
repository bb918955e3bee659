import InstaGLAM.Machinery.BusyTable
import InstaGLAM.Views.FollowCells

/-!
# Controllers/ListViewController — the lists of followers and of users followed

    ProfileViewController ──pushes──▸ list of relationships ──tap on row i──▸ message about row i

A list has cells of one class, and nothing happens to them by themselves.  Its rows show their own
relationships however it is scrolled, and the taps on their buttons say what the rows tapped say, in
order (`list_of_run`).
-/

namespace InstaGLAM

open TableView BusyTable Trace

/-- A cell of the list, with whether its delegate is set; `plain` is a bare `UITableViewCell`. -/
inductive ListCell where
  | user (cell : UserFollowTableViewCell) (delegate : Bool)
  | plain

/-- The one class of cells the table registers. -/
def listCells : CellRegistry Unit Unit ListCell where
  make _ _ := .user .made false
  prepareForReuse
    | .user cell delegate => .user cell.prepareForReuse delegate
    | .plain => .plain
  identifier
    | .user _ _ => some ()
    | .plain => none

structure ListViewController where
  models : List UserRelationship

namespace ListViewController

variable (list : ListViewController)

/-- `tableView(_:cellForRowAt:)`, which traps outside the rows. -/
def cellForRowAt (dequeueReusableCell : Unit → ListCell) (ix : IndexPath) : Option ListCell := do
  match dequeueReusableCell () with
  | .user cell _ => return .user (cell.configure (← list.models[ix.row]?)) true
  | .plain => return .plain

/-- The list as a data source. -/
def dataSource : DataSource Unit ListCell where
  numberOfSections := 1
  numberOfRows _ := some list.models.length
  cellForRow := list.cellForRowAt

/-- `didTapFollowOrUnfollowBtn(with:)`: what it prints. -/
def didTapFollowOrUnfollowBtn (model : UserRelationship) : String :=
  match model.type with
  | .following => "successfully unfollowed"
  | .notFollowing => "now following"

/-- The button of a cell is tapped; `printed` has the latest message first. -/
def tap (printed : List String) (cell : ListCell) (_ : Unit) : Option (ListCell × List String) :=
  match cell with
  | .user c delegate =>
    match c.didTapFollowButton with
    | some model =>
      some (cell, if delegate then didTapFollowOrUnfollowBtn model :: printed else printed)
    | none => some (cell, printed)
  | .plain => none

/-- The list in use. -/
def live : Busy Unit Unit ListCell (List String) Unit Empty where
  registry := listCells
  dataSource _ := list.dataSource
  touch := tap
  happen cell _ := cell

/-- The cell shows `model`, and its button tells the list of it. -/
def Shows (model : UserRelationship) : ListCell → Prop
  | .user c delegate => delegate = true ∧ c.didTapFollowButton = some model ∧
      c.look = (UserFollowTableViewCell.made.configure model).look ∧
      (c.look.2.1 = some "Unfollow" ↔ model.type = .following)
  | .plain => False

variable {list} {model : UserRelationship} {cell : ListCell} {ix : IndexPath}
  {printed : List String} {trace : List (Event ListCell Unit Empty)}
  {T : Table ListCell × List String}

theorem shows_configure (c : UserFollowTableViewCell) (model : UserRelationship) :
    Shows model (.user (c.configure model) true) := by
  obtain ⟨hlook, htap⟩ := Prod.mk.inj (UserFollowTableViewCell.look_configure c model)
  refine ⟨rfl, htap, hlook, ?_⟩
  rw [hlook]
  exact UserFollowTableViewCell.title_made model

theorem tap_of_shows (h : Shows model cell) {cell' : ListCell} {printed' : List String}
    (htap : tap printed cell () = some (cell', printed')) :
    cell' = cell ∧ printed' = didTapFollowOrUnfollowBtn model :: printed := by
  cases cell with
  | user c delegate =>
    obtain ⟨rfl, hmodel, -⟩ := h
    rw [tap, hmodel] at htap
    obtain ⟨rfl, rfl⟩ := Prod.mk.inj (Option.some.inj htap)
    exact ⟨rfl, rfl⟩
  | plain => exact h.elim

/-- What a row of the list is to show. -/
def RowShows (list : ListViewController) (ix : IndexPath) (cell : ListCell) : Prop :=
  ∃ model, list.models[ix.row]? = some model ∧ Shows model cell

/-- What a tap on a row is to print. -/
def prints (list : ListViewController) (ix : IndexPath) (_ : Unit) : Option String :=
  list.models[ix.row]?.map didTapFollowOrUnfollowBtn

theorem keeps (list : ListViewController) :
    Keeps list.live (fun _ cell => ∃ c delegate, cell = .user c delegate) (RowShows list)
      fun _ => True where
  made _ _ := ⟨_, _, rfl⟩
  prepared c _ _ hid := by
    cases c with
    | user c delegate => exact ⟨_, _, rfl⟩
    | plain => exact nomatch hid
  cell _ d ix c hd hcell := by
    obtain ⟨c', delegate, hc'⟩ := hd ()
    simp only [live, dataSource, cellForRowAt, hc', Option.bind_eq_bind,
      Option.bind_eq_some_iff] at hcell
    obtain ⟨model, hmodel, heq⟩ := hcell
    obtain rfl := Option.some.inj heq
    exact ⟨model, hmodel, shows_configure c' model⟩
  gone _ _ _ := trivial
  touched _ ix c _ c' _ := by
    rintro ⟨model, hmodel, hshows⟩ htap
    obtain ⟨rfl, -⟩ := tap_of_shows hshows htap
    exact ⟨model, hmodel, hshows⟩
  shown _ _ _ h := h
  pooled _ _ _ := trivial

/-- **A list shows and says what its rows are about**: every row on screen shows its own
relationship, and the messages printed are those of the rows tapped, in order. -/
theorem list_of_run (list : ListViewController)
    (h : Run (Step list.live) (Table.empty, printed) trace T) :
    (∀ ix cell, T.1.shown ix = some cell →
      ∃ model, list.models[ix.row]? = some model ∧ Shows model cell) ∧
    T.2 = trace.filterMap (said (prints list)) ++ printed := by
  refine ⟨((keeps list).run h).shown, log_of_run (keeps list) (prints list) id ?_ h⟩
  rintro printed ix c ⟨⟩ c' printed' ⟨model, hmodel, hshows⟩ htap
  rw [(tap_of_shows hshows htap).2, prints, hmodel]
  rfl

end ListViewController

/-! ## The two lists of a profile -/

/-- A `ListViewController` on the navigation stack. -/
structure PushedList where
  list : ListViewController
  title : String
  largeTitleDisplayMode : LargeTitleDisplayMode

namespace ProfileViewController

/-- The ten mock relationships, which are made anew for each list. -/
def mockData : List UserRelationship :=
  (List.range 10).map fun i =>
    { name := "Mary", username := "@marybisi"
      type := if i % 2 = 0 then .following else .notFollowing }

/-- `didTapFollowersButton(_:)` -/
def didTapFollowersButton : PushedList := ⟨⟨mockData⟩, "Followers", .never⟩

/-- `didTapFollowingButton(_:)` -/
def didTapFollowingButton : PushedList := ⟨⟨mockData⟩, "Following", .never⟩

/-- Mary, who is not being followed, is on screen in row 1, and her button has been tapped. -/
theorem mockList_of_run : ∃ T cell, Run (Step didTapFollowersButton.list.live) (Table.empty, [])
    [.live (.touched ⟨0, 1⟩ ()), .live (.scroll (.appeared ⟨0, 1⟩ cell))] T ∧
      T.2 = ["now following"] := by
  let list := didTapFollowersButton.list
  have hrow : list.dataSource.HasRow ⟨0, 1⟩ := ⟨Nat.one_pos, 10, rfl, by decide⟩
  obtain ⟨t, hrun, hshown⟩ := BusyTable.exists_appeared (m := ()) list.live [] hrow rfl
  obtain ⟨t', hrun', -⟩ := BusyTable.exists_touched hrun hshown rfl
  exact ⟨_, _, hrun', (ListViewController.list_of_run list hrun').2.trans (by decide)⟩

end ProfileViewController

end InstaGLAM
