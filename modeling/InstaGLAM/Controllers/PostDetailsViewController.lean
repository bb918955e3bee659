import InstaGLAM.Controllers.HomeViewController

/-!
# Controllers/PostDetailsViewController — one post on a screen of its own

    init(model:) ──▸ renderModels: header, post, actions, comments   (a section each)
    cellForRowAt ──▸ the dequeued cell, as it comes

The sections are built from the post the screen is given, but no cell is configured with them: the
header stays blank (`header_blank`), and the comments are four made-up ones
(`numberOfRowsInSection_comments`).  With the feed of `Controllers/HomeViewController`, this says
which of the two screens show the posts they are given (`postScreens_iff`).
-/

namespace InstaGLAM

open TableView Trace

structure PostDetailsViewController where
  model : Option UserPost
  renderModels : List PostRenderViewModel

namespace PostDetailsViewController

/-- `configureModels()`; `dates` are the moments the four comments are made. -/
def configureModels (details : PostDetailsViewController) (dates : ℕ → Date) :
    PostDetailsViewController :=
  match details.model with
  | none => details
  | some model =>
    let comments := (List.range 4).map fun x =>
      ({ identifier := "", username := "@tris343", text := "You look good"
         datePosted := dates x, likes := [] } : PostComment)
    { details with
      renderModels := details.renderModels ++
        [⟨.header model.postOwner⟩, ⟨.primaryContent model⟩, ⟨.actions "Emar"⟩,
          ⟨.comments comments⟩] }

/-- `init(model:)` -/
def init (model : Option UserPost) (dates : ℕ → Date) : PostDetailsViewController :=
  configureModels ⟨model, []⟩ dates

variable (details : PostDetailsViewController)

/-- `numberOfSections(in:)` -/
def numberOfSections : ℕ := details.renderModels.length

/-- `tableView(_:numberOfRowsInSection:)`, which traps outside the sections. -/
def numberOfRowsInSection (x : ℕ) : Option ℕ := do
  match (← details.renderModels[x]?).renderType with
  | .header _ => return 1
  | .primaryContent _ => return 1
  | .actions _ => return 1
  | .comments comments => return if 4 < comments.length then 4 else comments.length

/-- `tableView(_:cellForRowAt:)` -/
def cellForRowAt (dequeueReusableCell : FeedCellIdentifier → FeedCell) (ix : IndexPath) :
    Option FeedCell := do
  match (← details.renderModels[ix.sectionIdx]?).renderType with
  | .header _ =>
    match dequeueReusableCell .header with
    | .header cell => return .header cell
    | _ => return .plain
  | .primaryContent _ =>
    match dequeueReusableCell .post with
    | .post cell => return .post cell
    | _ => return .plain
  | .actions _ =>
    match dequeueReusableCell .actions with
    | .actions delegate => return .actions delegate
    | _ => return .plain
  | .comments _ =>
    match dequeueReusableCell .general with
    | .general => return .general
    | _ => return .plain

/-- `tableView(_:heightForRowAt:)`, given the width of the table. -/
def heightForRowAt (width : ℚ) (ix : IndexPath) : Option ℚ := do
  match (← details.renderModels[ix.sectionIdx]?).renderType with
  | .header _ => return 70
  | .primaryContent _ => return width
  | .actions _ => return 60
  | .comments _ => return 50

/-- The screen as a data source. -/
def dataSource : DataSource FeedCellIdentifier FeedCell where
  numberOfSections := details.numberOfSections
  numberOfRows := details.numberOfRowsInSection
  cellForRow := details.cellForRowAt

end PostDetailsViewController

/-! ## What the screen shows -/

/-- **The screen shows its post**: the owner in the header, the post below it, as many rows as it
has comments but at most four, and the same in a row each time it comes on screen. -/
structure DetailsShows (model : UserPost) (details : PostDetailsViewController)
    (trace : List (Scroll FeedCell)) : Prop where
  header : ∀ cell, .appeared ⟨0, 0⟩ cell ∈ trace →
    ∃ c, cell = .header c ∧ c.configuredWith = some model.postOwner
  post : ∀ cell, .appeared ⟨1, 0⟩ cell ∈ trace →
    ∃ c, cell = .post c ∧ c.configuredWith = some model
  comments : details.numberOfRowsInSection 3 = some (min 4 model.comments.length)
  same : ∀ ix cell cell', .appeared ix cell ∈ trace → .appeared ix cell' ∈ trace →
    cell.content = cell'.content

namespace PostDetailsViewController

/-- The header row comes on screen blank, configured with nobody. -/
theorem header_blank (model : UserPost) (dates : ℕ → Date) :
    ∃ trace t, Run (Step feedCells (init (some model) dates).dataSource) Table.empty trace t ∧
      .appeared ⟨0, 0⟩ (.header .made) ∈ trace :=
  exists_appeared (R := feedCells) (m := (0, 0, 0)) ⟨Nat.succ_pos 3, 1, rfl, Nat.one_pos⟩ rfl

/-- There are four comments, whatever the post. -/
theorem numberOfRowsInSection_comments (model : UserPost) (dates : ℕ → Date) :
    (init (some model) dates).numberOfRowsInSection 3 = some 4 := rfl

/-- The comment rows are those of the post exactly when it has at least four comments. -/
theorem commentRows_iff (model : UserPost) (dates : ℕ → Date) :
    (init (some model) dates).numberOfRowsInSection 3 = some (min 4 model.comments.length) ↔
      4 ≤ model.comments.length := by
  rw [numberOfRowsInSection_comments, Option.some.injEq]
  omega

end PostDetailsViewController

/-! ## Both screens -/

/-- **When the two screens show what they are given**: the feed exactly when all its models are
`newPost`, the screen of one post never. -/
theorem postScreens_iff (home : HomeViewController) (model : UserPost) (dates : ℕ → Date) :
    ((∀ trace t, Run (Step feedCells home.dataSource) Table.empty trace t →
      HomeShows home trace) ↔ home.AllNewPost) ∧
    ¬ ∀ trace t,
      Run (Step feedCells (PostDetailsViewController.init (some model) dates).dataSource)
        Table.empty trace t →
      DetailsShows model (PostDetailsViewController.init (some model) dates) trace := by
  refine ⟨HomeViewController.homeShows_iff_allNewPost, fun h => ?_⟩
  obtain ⟨trace, t, hrun, hmem⟩ := PostDetailsViewController.header_blank model dates
  obtain ⟨c, hc, hconf⟩ := (h trace t hrun).header _ hmem
  obtain rfl := FeedCell.header.inj hc
  exact nomatch hconf

/-- The mock feed is made of `newPost`, so it shows its models. -/
theorem mockFeed_shown :
    let home := (HomeViewController.made (0, 0, 0)).createMockModels fun _ => 0
    ∀ trace t, Run (Step feedCells home.dataSource) Table.empty trace t → HomeShows home trace :=
  (postScreens_iff _ (mockPost "@ruth" 0 0 0) fun _ => 0).1.2
    (HomeViewController.createMockModels_allNewPost _ fun _ hm => absurd hm List.not_mem_nil)

/-- A feed of one post of Ruth's shows it as one of Emar's, and the screen of that post shows
nobody. -/
theorem ruthPost_not_shown :
    let post := mockPost "@ruth" 0 0 0
    let home : HomeViewController :=
      { HomeViewController.made (0, 0, 0) with
        feedRenderModels := [.of post.postOwner post "Hello" []] }
    let details := PostDetailsViewController.init (some post) fun _ => 0
    (∃ trace t, Run (Step feedCells home.dataSource) Table.empty trace t ∧
      ¬ HomeShows home trace) ∧
    ∃ trace t, Run (Step feedCells details.dataSource) Table.empty trace t ∧
      ¬ DetailsShows post details trace := by
  intro post home details
  constructor
  · have hrow : home.dataSource.HasRow ⟨0, 0⟩ := ⟨Nat.succ_pos 3, 1, rfl, Nat.one_pos⟩
    obtain ⟨trace, t, hrun, hmem⟩ := exists_appeared (R := feedCells) (m := (0, 0, 0)) hrow rfl
    refine ⟨trace, t, hrun, fun h => ?_⟩
    obtain ⟨c, hc, hconf⟩ := (h 0 _ rfl).1 post.postOwner _ rfl hmem
    obtain rfl := FeedCell.header.inj hc
    exact absurd hconf (by decide)
  · obtain ⟨trace, t, hrun, hmem⟩ := PostDetailsViewController.header_blank post fun _ => 0
    refine ⟨trace, t, hrun, fun h => ?_⟩
    obtain ⟨c, hc, hconf⟩ := h.header _ hmem
    obtain rfl := FeedCell.header.inj hc
    exact nomatch hconf

end InstaGLAM
