import InstaGLAM.Controllers.PostDetailsViewController
import InstaGLAM.Machinery.BusyTable

/-!
# Controllers/FeedButtons — the buttons of the feed, at home and on the screen of one post

    Home:         cellForRowAt sets the delegate ──▸ each tap presents its alert or sheet
    PostDetails:  cellForRowAt does not          ──▸ no tap does anything, ever

Both tables show cells of the same classes, with the same buttons.  A cell that has a delegate keeps
it through the pool, so what matters is what *any* row of the table has set: `feedButtons` says what
a run presents on the one screen and on the other.
-/

namespace InstaGLAM

open TableView BusyTable Trace

/-- The buttons of the header and of the action cell. -/
inductive FeedButton where
  | more | like | comment | send
  deriving DecidableEq

/-- An alert or a sheet that a screen has asked to be presented. -/
structure FeedAlert where
  title : String
  message : Option String
  deriving DecidableEq

/-! ## What the buttons do -/

namespace HomeViewController

/-- `didTapLikeButton(sender:)` -/
def didTapLikeButton : FeedAlert := ⟨"Like", some "Like Button Tapped"⟩

/-- `didTapCommentButton(sender:)` -/
def didTapCommentButton : FeedAlert := ⟨"Comment", some "Comment Button Tapped"⟩

/-- `didTapSendButton(sender:)` -/
def didTapSendButton : FeedAlert := ⟨"Send", some "Send Button Tapped"⟩

/-- The sheet of `didTapMoreButton(sender:)`. -/
def moreSheet : FeedAlert := ⟨"Post Options", none⟩

/-- What the delegate methods present. -/
def presents : FeedButton → FeedAlert
  | .more => moreSheet
  | .like => didTapLikeButton
  | .comment => didTapCommentButton
  | .send => didTapSendButton

end HomeViewController

/-- Whether a cell has a button, and whether a delegate behind it. -/
def FeedCell.delegateOf : FeedCell → FeedButton → Option Bool
  | .header c, .more => some c.delegate
  | .actions delegate, .like | .actions delegate, .comment | .actions delegate, .send =>
    some delegate
  | _, _ => none

/-- A button of a cell is tapped. -/
def tapFeedButton (alerts : List FeedAlert) (cell : FeedCell) (button : FeedButton) :
    Option (FeedCell × List FeedAlert) :=
  match cell.delegateOf button with
  | some true => some (cell, HomeViewController.presents button :: alerts)
  | some false => some (cell, alerts)
  | none => none

/-- A feed with buttons, over its data source. -/
def feedTable (source : DataSource FeedCellIdentifier FeedCell) :
    Busy (Date × Date × Date) FeedCellIdentifier FeedCell (List FeedAlert) FeedButton Empty where
  registry := feedCells
  dataSource _ := source
  touch := tapFeedButton
  happen cell _ := cell

/-! ## Cells with a delegate and cells without -/

/-- Every button of the cell has a delegate. -/
def Delegated (cell : FeedCell) : Prop := ∀ button, cell.delegateOf button ≠ some false

/-- No button of the cell has one. -/
def Undelegated (cell : FeedCell) : Prop := ∀ button, cell.delegateOf button ≠ some true

variable {source : DataSource FeedCellIdentifier FeedCell} {alerts : List FeedAlert}
  {d : FeedCellIdentifier → FeedCell} {ix : IndexPath} {cell : FeedCell}
  {home : HomeViewController} {details : PostDetailsViewController}
  {trace : List (Event FeedCell FeedButton Empty)} {T : Table FeedCell × List FeedAlert}

theorem tap_cell {cell' : FeedCell} {alerts' : List FeedAlert} {button : FeedButton}
    (h : tapFeedButton alerts cell button = some (cell', alerts')) : cell' = cell ∧
      (cell.delegateOf button = some true ∧ alerts' = HomeViewController.presents button :: alerts ∨
        cell.delegateOf button = some false ∧ alerts' = alerts) := by
  rw [tapFeedButton] at h
  split at h
  · next hdelegate =>
    obtain ⟨rfl, rfl⟩ := Prod.mk.inj (Option.some.inj h)
    exact ⟨rfl, Or.inl ⟨hdelegate, rfl⟩⟩
  · next hdelegate =>
    obtain ⟨rfl, rfl⟩ := Prod.mk.inj (Option.some.inj h)
    exact ⟨rfl, Or.inr ⟨hdelegate, rfl⟩⟩
  · exact nomatch h

/-- A feed table keeps what its data source makes of its dequeued cells. -/
theorem keeps_feedTable {P : FeedCell → Prop} {B : FeedCellIdentifier → FeedCell → Prop}
    (hmade : ∀ dates x, B x (feedCells.make dates x))
    (hprepared : ∀ c x, P c → feedCells.identifier c = some x → B x (feedCells.prepareForReuse c))
    (hcell : ∀ d ix c, (∀ x, B x (d x)) → source.cellForRow d ix = some c → P c) :
    Keeps (feedTable source) B (fun _ => P) P where
  made := hmade
  prepared := hprepared
  cell _ := hcell
  gone _ _ h := h
  touched _ _ _ _ _ _ h htap := (tap_cell htap).1 ▸ h
  shown _ _ _ h := h
  pooled _ _ h := h

/-- At home, a cell with buttons has got its delegate by the time it is shown. -/
theorem delegated_of_cellForRowAt (h : home.cellForRowAt d ix = some cell) : Delegated cell := by
  have hheader : ∀ c : FeedPostHeaderTableViewCell, c.delegate = true →
      Delegated (.header c) := by
    intro c hc button
    cases button <;> simp [FeedCell.delegateOf, hc]
  have hactions : Delegated (.actions true) := by
    intro button
    cases button <;> simp [FeedCell.delegateOf]
  have hpost : ∀ c, Delegated (.post c) := fun c button => by simp [FeedCell.delegateOf]
  have hgeneral : Delegated .general := fun button => by simp [FeedCell.delegateOf]
  have hplain : Delegated .plain := fun button => by simp [FeedCell.delegateOf]
  simp only [HomeViewController.cellForRowAt, Option.bind_eq_bind, Option.bind_eq_some_iff] at h
  obtain ⟨model, -, h⟩ := h
  split_ifs at h
  all_goals
    split at h
    · split at h
      · obtain rfl := Option.some.inj h
        first | exact hheader _ rfl | exact hpost _ | exact hactions | exact hgeneral
      · obtain rfl := Option.some.inj h
        exact hplain
    · obtain rfl := Option.some.inj h
      exact hplain

/-- On the screen of one post, a dequeued cell is shown as it comes. -/
theorem undelegated_of_cellForRowAt (hd : ∀ x, Undelegated (d x))
    (h : details.cellForRowAt d ix = some cell) : Undelegated cell := by
  have hplain : Undelegated .plain := fun button => by simp [FeedCell.delegateOf]
  have hcell : (∃ x, cell = d x) ∨ cell = .plain := by
    simp only [PostDetailsViewController.cellForRowAt, Option.bind_eq_bind,
      Option.bind_eq_some_iff] at h
    obtain ⟨model, -, h⟩ := h
    split at h
    all_goals
      split at h
      · next hdequeued =>
        exact Or.inl ⟨_, (Option.some.inj h).symm.trans hdequeued.symm⟩
      · exact Or.inr (Option.some.inj h).symm
  rcases hcell with ⟨x, rfl⟩ | rfl
  · exact hd x
  · exact hplain

theorem keeps_home (home : HomeViewController) :
    Keeps (feedTable home.dataSource) (fun _ _ => True) (fun _ => Delegated) Delegated :=
  keeps_feedTable (fun _ _ => trivial) (fun _ _ _ _ => trivial)
    fun _ _ _ _ hcell => delegated_of_cellForRowAt hcell

theorem keeps_details (details : PostDetailsViewController) :
    Keeps (feedTable details.dataSource) (fun _ => Undelegated) (fun _ => Undelegated)
      Undelegated := by
  refine keeps_feedTable (fun dates x button => ?_) (fun c x hc hid button => ?_)
    fun _ _ _ hd hcell => undelegated_of_cellForRowAt hd hcell
  · cases x <;> cases button <;> simp [feedCells, FeedCell.delegateOf,
      FeedPostHeaderTableViewCell.made]
  · have hkept : (feedCells.prepareForReuse c).delegateOf button = c.delegateOf button := by
      cases c <;> cases button <;> rfl
    rw [hkept]
    exact hc button

/-! ## Every run -/

/-- **The buttons of the feed work at home and nowhere else**: a home feed presents what each tap is
for, in order, and the screen of one post nothing, however they are scrolled. -/
theorem feedButtons (home : HomeViewController) (details : PostDetailsViewController) :
    (∀ trace T, Run (Step (feedTable home.dataSource)) (Table.empty, alerts) trace T →
      T.2 = trace.filterMap (said fun _ button => match button with
        | .more => some ⟨"Post Options", none⟩
        | .like => some ⟨"Like", some "Like Button Tapped"⟩
        | .comment => some ⟨"Comment", some "Comment Button Tapped"⟩
        | .send => some ⟨"Send", some "Send Button Tapped"⟩) ++ alerts) ∧
    ∀ trace T, Run (Step (feedTable details.dataSource)) (Table.empty, alerts) trace T →
      T.2 = alerts := by
  refine ⟨fun trace T h => log_of_run (keeps_home home) _ id ?_ h, fun trace T h => ?_⟩
  · intro alerts ix c button c' alerts' hc htap
    obtain ⟨-, halerts⟩ := (tap_cell htap).2.resolve_right fun h => absurd h.1 (hc button)
    cases button <;> exact halerts
  · have hsilent : trace.filterMap (said fun _ _ => (none : Option FeedAlert)) = [] :=
      List.filterMap_eq_nil_iff.2 fun e _ => by rcases e with (_ | _) | _ | _ <;> rfl
    refine (log_of_run (keeps_details details) (fun _ _ => none) id ?_ h).trans ?_
    · intro alerts ix c button c' alerts' hc htap
      exact (tap_cell htap).2.elim (fun h => absurd h.1 (hc button)) And.right
    · rw [hsilent]
      rfl

/-- A like in the mock feed presents its alert. -/
theorem mockLike_presented :
    let home := (HomeViewController.made (0, 0, 0)).createMockModels fun _ => 0
    ∃ T cell, Run (Step (feedTable home.dataSource)) (Table.empty, [])
      [.live (.touched ⟨2, 0⟩ .like), .live (.scroll (.appeared ⟨2, 0⟩ cell))] T ∧
      T.2 = [⟨"Like", some "Like Button Tapped"⟩] := by
  intro home
  have hrow : home.dataSource.HasRow ⟨2, 0⟩ := ⟨by decide, 1, rfl, Nat.one_pos⟩
  have hcell : home.dataSource.cellForRow (feedCells.make (0, 0, 0)) ⟨2, 0⟩ =
      some (.actions true) :=
    rfl
  obtain ⟨t, hrun, hshown⟩ := BusyTable.exists_appeared (feedTable home.dataSource) [] hrow hcell
  have htap : (feedTable home.dataSource).touch [] (.actions true) .like =
      some (.actions true, [⟨"Like", some "Like Button Tapped"⟩]) := rfl
  obtain ⟨t', hrun', -⟩ := BusyTable.exists_touched hrun hshown htap
  let details := PostDetailsViewController.init none fun _ => 0
  exact ⟨_, _, hrun', (feedButtons home details).1 _ _ hrun'⟩

end InstaGLAM
