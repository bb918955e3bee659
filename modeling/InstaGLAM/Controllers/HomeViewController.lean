import InstaGLAM.Views.FeedCells
import Mathlib.Data.Rat.Defs

/-!
# Controllers/HomeViewController — the home feed

    model i ──▸ section 4i (header), 4i + 1 (post), 4i + 2 (actions), 4i + 3 (comments)

The table of the feed, with the payload of each model in four slots.  `cellForRowAt` looks at which
case a slot holds and not at what it carries, and configures the cells with `newPost`, the post the
mock feed is made of.  So whatever is scrolled past, the feed shows its models exactly when they are
that post (`homeShows_iff_allNewPost`).
-/

namespace InstaGLAM

open TableView Trace

/-! ## What the feed renders: `ViewModels` -/

inductive PostRenderType where
  | header (provider : User)
  | primaryContent (provider : UserPost)
  | actions (provider : String)
  | comments (comments : List PostComment)
  deriving DecidableEq

structure PostRenderViewModel where
  renderType : PostRenderType
  deriving DecidableEq

structure HomeFeedRenderViewModel where
  header : PostRenderViewModel
  post : PostRenderViewModel
  actions : PostRenderViewModel
  comments : PostRenderViewModel
  deriving DecidableEq

/-- A model with the right case in each slot. -/
def HomeFeedRenderViewModel.of (user : User) (post : UserPost) (actions : String)
    (comments : List PostComment) : HomeFeedRenderViewModel :=
  ⟨⟨.header user⟩, ⟨.primaryContent post⟩, ⟨.actions actions⟩, ⟨.comments comments⟩⟩

structure HomeViewController where
  newPost : UserPost
  feedRenderModels : List HomeFeedRenderViewModel

namespace HomeViewController

/-- The screen before `viewDidLoad`, with its post made at three moments. -/
def made (dates : Date × Date × Date) : HomeViewController :=
  ⟨mockPost "@Emar" dates.1 dates.2.1 dates.2.2, []⟩

/-- `createMockModels()`; `dates` are the moments the six comments are made. -/
def createMockModels (home : HomeViewController) (dates : ℕ → Date) : HomeViewController :=
  let comments := (List.range 6).map fun x =>
    ({ identifier := toString x, username := "@babie", text := "You look great fam"
       datePosted := dates x, likes := [] } : PostComment)
  let viewModel := HomeFeedRenderViewModel.of home.newPost.postOwner home.newPost "Hello" comments
  { home with feedRenderModels := home.feedRenderModels ++ List.replicate 6 viewModel }

variable (home : HomeViewController)

/-- `numberOfSections(in:)` -/
def numberOfSections : ℕ := home.feedRenderModels.length * 4

/-- The model `numberOfRowsInSection` reads; it traps when there is none. -/
def modelForRows (x : ℕ) : Option HomeFeedRenderViewModel :=
  if x = 0 then home.feedRenderModels[0]?
  else
    let position := if x % 4 = 0 then x / 4 else (x - x % 4) / 4
    home.feedRenderModels[position]?

/-- The model `cellForRowAt` reads, by a formula of its own; it traps when there is none. -/
def modelForCell (x : ℕ) : Option HomeFeedRenderViewModel :=
  if x = 0 then home.feedRenderModels[0]?
  else
    let position := if x % 4 = 0 then x / 4 else (x - x % 4) / 4
    home.feedRenderModels[position]?

/-- `tableView(_:numberOfRowsInSection:)` -/
def numberOfRowsInSection (x : ℕ) : Option ℕ := do
  let model ← home.modelForRows x
  if x % 4 = 0 then return 1
  else if x % 4 = 1 then return 1
  else if x % 4 = 2 then return 1
  else
    match model.comments.renderType with
    | .comments comments => return if 2 < comments.length then 2 else comments.length
    | _ => return 0

/-- `tableView(_:cellForRowAt:)` -/
def cellForRowAt (dequeueReusableCell : FeedCellIdentifier → FeedCell) (ix : IndexPath) :
    Option FeedCell := do
  let model ← home.modelForCell ix.sectionIdx
  if ix.sectionIdx % 4 = 0 then
    match model.header.renderType with
    | .header _ =>
      match dequeueReusableCell .header with
      | .header cell =>
        return .header { cell.configure home.newPost.postOwner with delegate := true }
      | _ => return .plain
    | _ => return .plain
  else if ix.sectionIdx % 4 = 1 then
    match model.post.renderType with
    | .primaryContent _ =>
      match dequeueReusableCell .post with
      | .post cell => return .post (cell.configure home.newPost)
      | _ => return .plain
    | _ => return .plain
  else if ix.sectionIdx % 4 = 2 then
    match model.actions.renderType with
    | .actions _ =>
      match dequeueReusableCell .actions with
      | .actions _ => return .actions true
      | _ => return .plain
    | _ => return .plain
  else
    match model.comments.renderType with
    | .comments _ =>
      match dequeueReusableCell .general with
      | .general => return .general
      | _ => return .plain
    | _ => return .plain

/-- `tableView(_:heightForRowAt:)`, given the width of the table. -/
def heightForRowAt (width : ℚ) (ix : IndexPath) : ℚ :=
  if ix.sectionIdx % 4 = 0 then 70
  else if ix.sectionIdx % 4 = 1 then width
  else if ix.sectionIdx % 4 = 2 then 60
  else 50

/-- `tableView(_:heightForFooterInSection:)` -/
def heightForFooterInSection (x : ℕ) : ℚ := if x % 4 = 3 then 40 else 0

/-- The feed as a data source. -/
def dataSource : DataSource FeedCellIdentifier FeedCell where
  numberOfSections := home.numberOfSections
  numberOfRows := home.numberOfRowsInSection
  cellForRow := home.cellForRowAt

end HomeViewController

/-! ## What the feed shows -/

/-- **The feed shows its models**: each header and each post that has come on screen is configured
with what its slot carries. -/
def HomeShows (home : HomeViewController) (trace : List (Scroll FeedCell)) : Prop :=
  ∀ i m, home.feedRenderModels[i]? = some m →
    (∀ user cell, m.header.renderType = .header user → .appeared ⟨4 * i, 0⟩ cell ∈ trace →
      ∃ c, cell = .header c ∧ c.configuredWith = some user) ∧
    ∀ post cell, m.post.renderType = .primaryContent post → .appeared ⟨4 * i + 1, 0⟩ cell ∈ trace →
      ∃ c, cell = .post c ∧ c.configuredWith = some post

namespace HomeViewController

/-- Every header and every post in the feed is that of `newPost`. -/
def AllNewPost (home : HomeViewController) : Prop :=
  ∀ m ∈ home.feedRenderModels,
    (∀ user, m.header.renderType = .header user → user = home.newPost.postOwner) ∧
      ∀ post, m.post.renderType = .primaryContent post → post = home.newPost

variable {home : HomeViewController} {pool : List FeedCell}
  {d : FeedCellIdentifier → FeedCell} {i r : ℕ} {m : HomeFeedRenderViewModel}

/-- The mock feed is made of `newPost`. -/
theorem createMockModels_allNewPost (dates : ℕ → Date) (h : home.AllNewPost) :
    (home.createMockModels dates).AllNewPost := by
  intro m hm
  rcases List.mem_append.1 hm with hm | hm
  · exact h m hm
  · obtain rfl := List.eq_of_mem_replicate hm
    exact ⟨fun _ h => (PostRenderType.header.inj h).symm,
      fun _ h => (PostRenderType.primaryContent.inj h).symm⟩

/-- The two formulas agree. -/
theorem modelForCell_eq (home : HomeViewController) (x : ℕ) :
    home.modelForCell x = home.modelForRows x := rfl

/-- The four sections of a model read that model. -/
theorem modelForRows_eq (home : HomeViewController) (i : ℕ) (hr : r < 4) :
    home.modelForRows (4 * i + r) = home.feedRenderModels[i]? := by
  have hdiv : (4 * i + r - (4 * i + r) % 4) / 4 = i := by omega
  have hzero : (4 * i + r) % 4 = 0 → (4 * i + r) / 4 = i := by omega
  by_cases hx : 4 * i + r = 0
  · have hi : i = 0 := by omega
    rw [modelForRows, if_pos hx, hi]
  · rw [modelForRows, if_neg hx]
    split_ifs with hmod
    · rw [hzero hmod]
    · rw [hdiv]

/-- The first three sections of a model have a row each. -/
theorem hasRow (home : HomeViewController) (hm : home.feedRenderModels[i]? = some m) (hr : r < 3) :
    home.dataSource.HasRow ⟨4 * i + r, 0⟩ := by
  have hi : i < home.feedRenderModels.length := (List.getElem?_eq_some_iff.1 hm).1
  have hmodel : home.modelForRows (4 * i + r) = some m :=
    (home.modelForRows_eq i (by omega)).trans hm
  have hmod : (4 * i + r) % 4 = r := by omega
  refine ⟨?_, 1, ?_, Nat.one_pos⟩
  · change 4 * i + r < home.feedRenderModels.length * 4
    omega
  · change home.numberOfRowsInSection (4 * i + r) = some 1
    rw [numberOfRowsInSection, hmodel, hmod]
    obtain rfl | rfl | rfl : r = 0 ∨ r = 1 ∨ r = 2 := by omega
    all_goals rfl

/-- The header of a model is that of `newPost`, in whatever cell is dequeued. -/
theorem cellForRowAt_header (hd : Dequeues feedCells pool d)
    (hm : home.feedRenderModels[i]? = some m) {user : User}
    (hu : m.header.renderType = .header user) :
    ∃ c, home.cellForRowAt d ⟨4 * i, 0⟩ = some (.header c) ∧
      c.configuredWith = some home.newPost.postOwner := by
  obtain ⟨c, hcell⟩ : ∃ c, d .header = .header c := (dequeue_header hd).imp' _ fun _ h => h
  have hmodel : home.modelForCell (4 * i) = some m :=
    (home.modelForRows_eq i (r := 0) (by omega)).trans hm
  have hmod : 4 * i % 4 = 0 := by omega
  refine ⟨{ c.configure home.newPost.postOwner with delegate := true }, ?_, rfl⟩
  simp [cellForRowAt, hmodel, hmod, hu, hcell]

/-- The post of a model is `newPost`, in whatever cell is dequeued. -/
theorem cellForRowAt_post (hd : Dequeues feedCells pool d)
    (hm : home.feedRenderModels[i]? = some m) {post : UserPost}
    (hp : m.post.renderType = .primaryContent post) :
    ∃ c, home.cellForRowAt d ⟨4 * i + 1, 0⟩ = some (.post c) ∧
      c.configuredWith = some home.newPost := by
  have hmodel : home.modelForCell (4 * i + 1) = some m :=
    (home.modelForRows_eq i (by omega)).trans hm
  have hmod : (4 * i + 1) % 4 = 1 := by omega
  obtain ⟨c, hcell⟩ : ∃ c, d .post = .post c := by
    rcases dequeue_post hd with ⟨dates, h⟩ | h
    · exact ⟨_, h⟩
    · exact ⟨_, h⟩
  refine ⟨c.configure home.newPost, ?_, rfl⟩
  simp [cellForRowAt, hmodel, hmod, hp, hcell]

/-- **When the feed shows its models**: in every scroll history, exactly when they are all
`newPost`. -/
theorem homeShows_iff_allNewPost :
    (∀ trace t, Run (Step feedCells home.dataSource) Table.empty trace t → HomeShows home trace) ↔
      home.AllNewPost := by
  constructor
  · intro h m hmem
    obtain ⟨i, hm⟩ := List.mem_iff_getElem?.1 hmem
    refine ⟨fun user hu => ?_, fun post hp => ?_⟩
    · obtain ⟨c, hcell, hconf⟩ := cellForRowAt_header (dequeues_make [] (0, 0, 0)) hm hu
      have hrow := home.hasRow hm (r := 0) (by omega)
      obtain ⟨trace, t, hrun, hmem⟩ := exists_appeared (R := feedCells) hrow hcell
      obtain ⟨c', hc, hshown⟩ := (h trace t hrun i m hm).1 user _ hu hmem
      obtain rfl := FeedCell.header.inj hc
      exact Option.some.inj (hshown.symm.trans hconf)
    · obtain ⟨c, hcell, hconf⟩ := cellForRowAt_post (dequeues_make [] (0, 0, 0)) hm hp
      have hrow := home.hasRow hm (r := 1) (by omega)
      obtain ⟨trace, t, hrun, hmem⟩ := exists_appeared (R := feedCells) hrow hcell
      obtain ⟨c', hc, hshown⟩ := (h trace t hrun i m hm).2 post _ hp hmem
      obtain rfl := FeedCell.post.inj hc
      exact Option.some.inj (hshown.symm.trans hconf)
  · intro h trace t hrun i m hm
    obtain ⟨hheader, hpost⟩ := h m (List.mem_of_getElem? hm)
    refine ⟨fun user cell hu hmem => ?_, fun post cell hp hmem => ?_⟩
    · obtain ⟨-, d, pool, hd, hcell⟩ := mem_appeared hrun hmem
      obtain ⟨c, hc, hconf⟩ := cellForRowAt_header hd hm hu
      exact ⟨c, Option.some.inj (hcell.symm.trans hc), by rw [hconf, hheader user hu]⟩
    · obtain ⟨-, d, pool, hd, hcell⟩ := mem_appeared hrun hmem
      obtain ⟨c, hc, hconf⟩ := cellForRowAt_post hd hm hp
      exact ⟨c, Option.some.inj (hcell.symm.trans hc), by rw [hconf, hpost post hp]⟩

end HomeViewController

end InstaGLAM
