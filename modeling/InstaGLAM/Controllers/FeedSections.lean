import InstaGLAM.Controllers.HomeViewController
import InstaGLAM.Machinery.Sections

/-!
# Controllers/FeedSections — the section arithmetic of the home feed

    section s ──place 4──▸ (model s / 4, slot s % 4) ──▸ rows, cells, heights of that slot

`numberOfRowsInSection` and `cellForRowAt` each find the model of a section by a formula of their
own, with a case for section 0 and another for the headers; it is `s / 4` throughout
(`position_eq`).  So the sections run through the feed once and in order, and for models with the
right case in each slot every announced row gets a cell of its slot's class (`feedSections`).
-/

namespace InstaGLAM

open TableView Sections

namespace HomeViewController

/-! ## Which model a section reads -/

/-- Where the model of section `x` is looked for. -/
def position (x : ℕ) : ℕ :=
  if x = 0 then 0 else if x % 4 = 0 then x / 4 else (x - x % 4) / 4

theorem position_eq (x : ℕ) : position x = x / 4 := by
  rw [position]
  split_ifs <;> omega

theorem modelForRows_eq_position (home : HomeViewController) (x : ℕ) :
    home.modelForRows x = home.feedRenderModels[position x]? := by
  rw [modelForRows, position]
  split_ifs <;> rfl

/-! ## What a slot asks for -/

/-- The class of cell in section `x`. -/
def slot (x : ℕ) : FeedCellIdentifier :=
  if x % 4 = 0 then .header
  else if x % 4 = 1 then .post
  else if x % 4 = 2 then .actions
  else .general

/-- The rows of a slot: one, or the first two comments. -/
def slotRows (comments : List PostComment) : FeedCellIdentifier → ℕ
  | .header | .post | .actions => 1
  | .general => min 2 comments.length

/-- The height of a row of a slot. -/
def slotHeight (width : ℚ) : FeedCellIdentifier → ℚ
  | .header => 70
  | .post => width
  | .actions => 60
  | .general => 50

/-- The right case in every slot. -/
def WellCased (home : HomeViewController) : Prop :=
  ∀ m ∈ home.feedRenderModels, ∃ user post actions comments, m = .of user post actions comments

/-- The mock feed is well-cased. -/
theorem createMockModels_wellCased {home : HomeViewController} (dates : ℕ → Date)
    (h : home.WellCased) : (home.createMockModels dates).WellCased := by
  intro m hm
  rcases List.mem_append.1 hm with hm | hm
  · exact h m hm
  · exact ⟨_, _, _, _, List.eq_of_mem_replicate hm⟩

/-- Every dequeued cell has the class registered for its identifier. -/
def Registered (d : FeedCellIdentifier → FeedCell) : Prop :=
  ∀ x, feedCells.identifier (d x) = some x

variable {home : HomeViewController} {d : FeedCellIdentifier → FeedCell} {pool : List FeedCell}
  {user : User} {post : UserPost} {actions : String} {comments : List PostComment} {s : ℕ}

/-- Whatever the pool, what is dequeued has the registered class. -/
theorem registered_of_dequeues (hd : Dequeues feedCells pool d) : Registered d := by
  intro x
  rcases hd x with ⟨dates, h⟩ | ⟨c, -, hid, h⟩
  · rw [h]
    cases x <;> rfl
  · rw [h, ← hid]
    cases c <;> rfl

theorem numberOfRowsInSection_of
    (hm : home.modelForRows s = some (.of user post actions comments)) :
    home.numberOfRowsInSection s = some (slotRows comments (slot s)) := by
  have hcomments :
      (if 2 < comments.length then 2 else comments.length) = min 2 comments.length := by
    split_ifs <;> omega
  rw [numberOfRowsInSection, hm, slot]
  split_ifs
  · rfl
  · rfl
  · rfl
  · exact congrArg some hcomments

/-- A row gets a cell of its slot's class. -/
theorem cellForRowAt_of (hm : home.modelForCell s = some (.of user post actions comments))
    (hd : Registered d) (row : ℕ) :
    ∃ cell, home.cellForRowAt d ⟨s, row⟩ = some cell ∧
      feedCells.identifier cell = some (slot s) := by
  obtain ⟨header, hheader⟩ := header_of_identifier (hd .header)
  obtain ⟨primary, hpost⟩ := post_of_identifier (hd .post)
  obtain ⟨delegate, hactions⟩ := actions_of_identifier (hd .actions)
  have hgeneral := general_of_identifier (hd .general)
  rw [slot]
  simp only [cellForRowAt, hm, HomeFeedRenderViewModel.of, Option.bind_eq_bind, Option.bind_some,
    hheader, hpost, hactions, hgeneral]
  split_ifs <;> exact ⟨_, rfl, rfl⟩

theorem heightForRowAt_eq (width : ℚ) (s row : ℕ) :
    heightForRowAt width ⟨s, row⟩ = slotHeight width (slot s) := by
  rw [heightForRowAt, slot]
  split_ifs <;> rfl

/-! ## The whole feed -/

/-- What section `s` has to offer when its model is made of `user`, `post`, `actions` and
`comments`: as many rows as its slot asks for, each in a cell of the slot's class (so never in a
`plain` one) and of its height. -/
structure SectionShows (home : HomeViewController) (s : ℕ) (comments : List PostComment) :
    Prop where
  rows : home.numberOfRowsInSection s = some (slotRows comments (slot s))
  cells : ∀ row < slotRows comments (slot s), ∀ d, Registered d →
    ∃ cell, home.cellForRowAt d ⟨s, row⟩ = some cell ∧ feedCells.identifier cell = some (slot s)
  heights : ∀ row width, heightForRowAt width ⟨s, row⟩ = slotHeight width (slot s)

/-- **The section arithmetic**: the sections are the four slots of each model, once each and in
order; each reads the model at its position, and shows the slot of that model. -/
theorem feedSections (h : home.WellCased) :
    Set.BijOn (fun s => (position s, s % 4)) {s | s < home.numberOfSections}
        ({i | i < home.feedRenderModels.length} ×ˢ {r | r < 4}) ∧
      StrictMono (fun s => toLex (position s, s % 4)) ∧
      ∀ s < home.numberOfSections, ∃ user post actions comments,
        home.feedRenderModels[position s]? = some (.of user post actions comments) ∧
          home.modelForRows s = home.feedRenderModels[position s]? ∧
            home.modelForCell s = home.feedRenderModels[position s]? ∧
              home.SectionShows s comments := by
  have hplace : (fun s => (position s, s % 4)) = place 4 := funext fun s => by
    rw [place, position_eq]
  refine ⟨?_, ?_, fun s hs => ?_⟩
  · rw [hplace]
    exact bijOn_place (by decide)
  · simp only [position_eq]
    exact strictMono_place
  · have hpos : position s < home.feedRenderModels.length := by
      rw [position_eq]
      exact (Nat.div_lt_iff_lt_mul (by decide)).2 hs
    obtain ⟨user, post, actions, comments, hof⟩ := h _ (List.getElem_mem hpos)
    have hget : home.feedRenderModels[position s]? = some (.of user post actions comments) := by
      rw [List.getElem?_eq_getElem hpos, hof]
    have hrows := home.modelForRows_eq_position s
    have hcell := (home.modelForCell_eq s).trans hrows
    exact ⟨user, post, actions, comments, hget, hrows, hcell,
      numberOfRowsInSection_of (hrows.trans hget),
      fun row _ d hd => cellForRowAt_of (hcell.trans hget) hd row,
      fun row width => heightForRowAt_eq width s row⟩

/-- The 24 sections of the mock feed. -/
theorem feedSections_mock :
    let home := (made (0, 0, 0)).createMockModels fun _ => 0
    home.numberOfSections = 24 ∧
      Set.BijOn (fun s => (position s, s % 4)) {s | s < home.numberOfSections}
        ({i | i < home.feedRenderModels.length} ×ˢ {r | r < 4}) ∧
      StrictMono (fun s => toLex (position s, s % 4)) ∧
      ∀ s < home.numberOfSections, ∃ user post actions comments,
        home.feedRenderModels[position s]? = some (.of user post actions comments) ∧
          home.modelForRows s = home.feedRenderModels[position s]? ∧
            home.modelForCell s = home.feedRenderModels[position s]? ∧
              home.SectionShows s comments :=
  ⟨by decide, feedSections (createMockModels_wellCased _ fun _ hm => nomatch hm)⟩

end HomeViewController

end InstaGLAM
