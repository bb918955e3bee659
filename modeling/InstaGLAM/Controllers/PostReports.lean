import InstaGLAM.Controllers.HomeViewController
import InstaGLAM.Machinery.LiveTable

/-!
# Controllers/PostReports — the more button of the home feed

    tap on the header of post i ──▸ sheet ──"Cancel"──▸ reportPost()
                                          ──"Report Post"──▸ nothing

The sheet's two handlers are the wrong way round, and `reportPost` is not told which post: a report
is filed for each "Cancel", naming no post, and none for a "Report Post" (`reports_eq`).  So the
reports are those the user asked for as long as nothing is chosen at all (`reportsChosen_iff`).
-/

namespace InstaGLAM

open TableView LiveTable Trace

/-! ## The sheet -/

/-- `UIAlertAction.Style` -/
inductive UIAlertActionStyle where
  | default | cancel | destructive
  deriving DecidableEq

/-- The reports filed, the latest first, each with the post it names. -/
abbrev Reports := List (Option ℕ)

structure UIAlertAction where
  title : String
  style : UIAlertActionStyle
  handler : Option (Reports → Reports)

namespace HomeViewController

/-- `reportPost()`, which is not told the post. -/
def reportPost (reports : Reports) : Reports := none :: reports

/-- `didTapMoreButton(sender:)`: the actions of the sheet it presents. -/
def didTapMoreButton (_sender : FeedPostHeaderTableViewCell) : List UIAlertAction :=
  [⟨"Cancel", .cancel, some reportPost⟩, ⟨"Report Post", .destructive, none⟩]

end HomeViewController

/-- The cell's `didTapMoreButton()`: without a delegate there is no sheet. -/
def FeedPostHeaderTableViewCell.didTapMoreButton (c : FeedPostHeaderTableViewCell) :
    Option (List UIAlertAction) :=
  if c.delegate then some (HomeViewController.didTapMoreButton c) else none

namespace HomeViewController

/-- Tapping the more button of a cell, and choosing the action with a title. -/
def choose (reports : Reports) (cell : FeedCell) (title : String) : Option (FeedCell × Reports) :=
  match cell with
  | .header c => do
    let sheet ← c.didTapMoreButton
    let action ← sheet.find? (·.title = title)
    return (.header c, action.handler.getD id reports)
  | _ => none

/-- The home feed, as its user sees it. -/
def live (home : HomeViewController) :
    Live (Date × Date × Date) FeedCellIdentifier FeedCell Reports String where
  registry := feedCells
  dataSource _ := home.dataSource
  touch := choose

variable {home : HomeViewController} {reports reports' : Reports} {cell cell' : FeedCell}
  {title : String} {trace : List (Event FeedCell String)} {T T' : Table FeedCell × Reports}
  {ix : IndexPath}

/-- A choice is that of an action in the sheet of a header, and runs its handler. -/
theorem choose_eq_some (h : choose reports cell title = some (cell', reports')) :
    ∃ c action, cell = .header c ∧ cell' = .header c ∧ action ∈ didTapMoreButton c ∧
      action.title = title ∧ reports' = action.handler.getD id reports := by
  cases cell with
  | header c =>
    simp only [choose, Option.bind_eq_bind, Option.bind_eq_some_iff] at h
    obtain ⟨sheet, hsheet, action, hfind, heq⟩ := h
    obtain ⟨rfl, rfl⟩ := Prod.mk.inj (Option.some.inj heq)
    rw [FeedPostHeaderTableViewCell.didTapMoreButton, Option.ite_none_right_eq_some] at hsheet
    obtain ⟨-, hsheet⟩ := hsheet
    have hmem := List.mem_of_find?_eq_some hfind
    rw [← Option.some.inj hsheet] at hmem
    exact ⟨c, action, rfl, rfl, hmem, by simpa using List.find?_some hfind, rfl⟩
  | _ => exact nomatch h

/-- **What a choice does**: "Cancel" files a report of no post, "Report Post" none. -/
theorem choose_cases (h : choose reports cell title = some (cell', reports')) :
    title = "Cancel" ∧ reports' = none :: reports ∨ title = "Report Post" ∧ reports' = reports := by
  obtain ⟨c, action, -, -, hmem, rfl, rfl⟩ := choose_eq_some h
  simp only [didTapMoreButton, List.mem_cons, List.not_mem_nil, or_false] at hmem
  rcases hmem with rfl | rfl
  · exact Or.inl ⟨rfl, rfl⟩
  · exact Or.inr ⟨rfl, rfl⟩

/-! ## The reports of a run -/

/-- The posts for whose header the action with a title was chosen, the latest first. -/
def chosen (title : String) : List (Event FeedCell String) → List ℕ
  | [] => []
  | .scroll _ :: trace => chosen title trace
  | .touched ix t :: trace =>
    if t = title then ix.sectionIdx / 4 :: chosen title trace else chosen title trace

/-- **Exactly the posts the user chose to report are reported**, in order, and no "Cancel" along the
run files a report. -/
structure ReportsChosen (home : HomeViewController) (trace : List (Event FeedCell String))
    (reports : Reports) : Prop where
  inOrder : reports = (chosen "Report Post" trace).map some
  cancel : ∀ later ix earlier, trace = later ++ .touched ix "Cancel" :: earlier →
    ∀ T T', Run (Step home.live) (Table.empty, []) earlier T →
      Step home.live T (.touched ix "Cancel") T' → T'.2 = T.2

/-- A choice in a run is one of the two. -/
theorem title_of_run (h : Run (Step home.live) (Table.empty, []) trace T)
    (hmem : .touched ix title ∈ trace) : title = "Cancel" ∨ title = "Report Post" := by
  induction h with
  | nil => exact nomatch hmem
  | cons _ hs ih =>
    rcases List.mem_cons.1 hmem with rfl | hmem
    · cases hs with
      | touched _ htouch =>
        rcases choose_cases htouch with ⟨rfl, -⟩ | ⟨rfl, -⟩
        · exact Or.inl rfl
        · exact Or.inr rfl
    · exact ih hmem

/-- **The reports are the cancellations**, and none names a post. -/
theorem reports_eq (h : Run (Step home.live) (Table.empty, []) trace T) :
    T.2 = (chosen "Cancel" trace).map fun _ => none := by
  induction h with
  | nil => rfl
  | cons _ hs ih =>
    cases hs with
    | scroll => exact ih
    | touched _ htouch =>
      rcases choose_cases htouch with ⟨rfl, rfl⟩ | ⟨rfl, rfl⟩
      · exact congrArg (none :: ·) ih
      · exact ih

theorem mem_chosen (h : .touched ix title ∈ trace) : ix.sectionIdx / 4 ∈ chosen title trace := by
  induction trace with
  | nil => exact nomatch h
  | cons e trace ih =>
    rcases List.mem_cons.1 h with rfl | hmem
    · rw [chosen, if_pos rfl]
      exact List.mem_cons_self
    · cases e with
      | scroll => exact ih hmem
      | touched ix' t =>
        rw [chosen]
        split_ifs
        · exact List.mem_cons_of_mem _ (ih hmem)
        · exact ih hmem

theorem chosen_eq_nil (h : ∀ ix, .touched ix title ∉ trace) : chosen title trace = [] := by
  induction trace with
  | nil => rfl
  | cons e trace ih =>
    have hrest := ih fun ix hmem => h ix (List.mem_cons_of_mem _ hmem)
    cases e with
    | scroll => exact hrest
    | touched ix t =>
      have hne : t ≠ title := fun ht => h ix (ht ▸ List.mem_cons_self)
      rw [chosen, if_neg hne, hrest]

/-- **When the reports are those the user asked for**: as long as nothing has been chosen. -/
theorem reportsChosen_iff (h : Run (Step home.live) (Table.empty, []) trace T) :
    ReportsChosen home trace T.2 ↔ ∀ ix title, .touched ix title ∉ trace := by
  constructor
  · rintro ⟨hreports, -⟩ ix title hmem
    rw [reports_eq h] at hreports
    rcases title_of_run h hmem with rfl | rfl
    · -- a report of no post
      have hnone : none ∈ (chosen "Report Post" trace).map some :=
        hreports ▸ List.mem_map.2 ⟨_, mem_chosen hmem, rfl⟩
      obtain ⟨_, -, hsome⟩ := List.mem_map.1 hnone
      exact nomatch hsome
    · -- a post without a report
      have hsome : some (ix.sectionIdx / 4) ∈ (chosen "Cancel" trace).map fun _ => none :=
        hreports ▸ List.mem_map.2 ⟨_, mem_chosen hmem, rfl⟩
      obtain ⟨_, -, hnone⟩ := List.mem_map.1 hsome
      exact nomatch hnone
  · intro hnothing
    refine ⟨?_, fun later ix earlier htrace => ?_⟩
    · rw [reports_eq h, chosen_eq_nil fun ix => hnothing ix _,
        chosen_eq_nil fun ix => hnothing ix _]
      rfl
    · refine absurd ?_ (hnothing ix "Cancel")
      rw [htrace]
      exact List.mem_append_right _ List.mem_cons_self

/-! ## The sheet is always there -/

/-- A header is shown in a section `4 * i` only, and has its delegate. -/
theorem header_of_cellForRowAt {d : FeedCellIdentifier → FeedCell} {c : FeedPostHeaderTableViewCell}
    (h : home.cellForRowAt d ix = some (.header c)) :
    ix.sectionIdx % 4 = 0 ∧ c.delegate = true := by
  simp only [cellForRowAt, Option.bind_eq_bind, Option.bind_eq_some_iff] at h
  obtain ⟨model, -, h⟩ := h
  split_ifs at h with h₀ h₁ h₂
  · refine ⟨h₀, ?_⟩
    split at h
    · split at h
      · cases h
        rfl
      · cases h
    · cases h
  all_goals
    split at h
    · split at h <;> cases h
    · cases h

/-- **Every header on screen presents the sheet**, recycled or not. -/
theorem moreButton_presents (h : Run (Step home.live) (Table.empty, []) trace T)
    {c : FeedPostHeaderTableViewCell} (hc : T.1.shown ix = some (.header c)) :
    ix.sectionIdx % 4 = 0 ∧ c.didTapMoreButton = some (didTapMoreButton c) := by
  have hshown := shown_invariant (P := fun ix cell => ∀ c, cell = .header c →
    ix.sectionIdx % 4 = 0 ∧ c.delegate = true)
    (fun _ _ _ _ _ _ hcell c hc => header_of_cellForRowAt (hc ▸ hcell)) ?_ h ix _ hc c rfl
  · exact ⟨hshown.1, if_pos hshown.2⟩
  · intro reports ix cell title cell' reports' hP htouch c hc
    obtain ⟨c', -, rfl, hcell', -⟩ := choose_eq_some htouch
    exact hP c (hcell'.symm.trans hc ▸ rfl)

/-! ## The first post of the mock feed -/

/-- The mock feed, with all its moments 0. -/
def mockFeed : HomeViewController := (made (0, 0, 0)).createMockModels fun _ => 0

/-- Its first header, in a new cell. -/
def mockHeader : FeedCell :=
  .header { FeedPostHeaderTableViewCell.made.configure mockFeed.newPost.postOwner with
    delegate := true }

/-- It has just come on screen. -/
def mockTrace : List (Event FeedCell String) := [.scroll (.appeared ⟨0, 0⟩ mockHeader)]

theorem run_mockTrace : ∃ t, Run (Step mockFeed.live) (Table.empty, []) mockTrace (t, []) ∧
    t.shown ⟨0, 0⟩ = some mockHeader :=
  LiveTable.exists_appeared (m := (0, 0, 0)) ⟨by decide, 1, rfl, Nat.one_pos⟩ rfl

/-- Before the first choice, the reports are those asked for; after it they are not. -/
theorem mockTrace_reportsChosen :
    (∃ T, Run (Step mockFeed.live) (Table.empty, []) mockTrace T ∧
      ReportsChosen mockFeed mockTrace T.2) ∧
    ∃ T, Run (Step mockFeed.live) (Table.empty, [])
        (.touched ⟨0, 0⟩ "Report Post" :: mockTrace) T ∧
      ¬ ReportsChosen mockFeed (.touched ⟨0, 0⟩ "Report Post" :: mockTrace) T.2 := by
  obtain ⟨t, hrun, hshown⟩ := run_mockTrace
  have hreport : mockFeed.live.touch [] mockHeader "Report Post" = some (mockHeader, []) := rfl
  obtain ⟨t', hrun', -⟩ := exists_touched hrun hshown hreport
  refine ⟨⟨_, hrun, (reportsChosen_iff hrun).2 fun ix title hmem => ?_⟩, _, hrun', fun h => ?_⟩
  · simp [mockTrace] at hmem
  · exact (reportsChosen_iff hrun').1 h _ _ List.mem_cons_self

/-- One choice later they are not: "Report Post" files none, and "Cancel" files one of no post. -/
theorem mockHeader_reported :
    (∃ T, Run (Step mockFeed.live) (Table.empty, [])
        (.touched ⟨0, 0⟩ "Report Post" :: mockTrace) T ∧
      T.2 = [] ∧ ¬ ReportsChosen mockFeed (.touched ⟨0, 0⟩ "Report Post" :: mockTrace) T.2) ∧
    ∃ T, Run (Step mockFeed.live) (Table.empty, []) (.touched ⟨0, 0⟩ "Cancel" :: mockTrace) T ∧
      T.2 = [none] ∧ ¬ ReportsChosen mockFeed (.touched ⟨0, 0⟩ "Cancel" :: mockTrace) T.2 := by
  obtain ⟨t, hrun, hshown⟩ := run_mockTrace
  have hreport : mockFeed.live.touch [] mockHeader "Report Post" = some (mockHeader, []) := rfl
  have hcancel : mockFeed.live.touch [] mockHeader "Cancel" = some (mockHeader, [none]) := rfl
  obtain ⟨t₁, hrun₁, -⟩ := exists_touched hrun hshown hreport
  obtain ⟨t₂, hrun₂, -⟩ := exists_touched hrun hshown hcancel
  exact ⟨⟨_, hrun₁, rfl, fun h => nomatch h.inOrder⟩, _, hrun₂, rfl, fun h => nomatch h.inOrder⟩

end HomeViewController

end InstaGLAM
