import InstaGLAM.Machinery.LiveTable

/-!
# Controllers/EditProfileViewController — the form for editing a profile

    type, Return ──▸ model of the cell, copied ──▸ formTableViewCellUpdate: printed
    scroll away and back ──▸ formModels[section][row] ──▸ configureCell

Return puts the text of the field into a copy of the cell's model and hands the copy to the
controller, which prints its value.  Neither the cell's model nor `formModels` changes, so a row
that comes back on screen is blank, whatever has been committed in it (`keepsEdits_iff`).
-/

namespace InstaGLAM

open TableView LiveTable Trace

structure EditProfileFormModel where
  label : String
  placeholder : String
  value : Option String
  deriving DecidableEq

/-! ## The cell -/

/-- The cell of a row; a text field that is given no text reads as empty. -/
structure FormTableViewCell where
  model : Option EditProfileFormModel
  formLabel : Option String
  placeholder : Option String
  text : String
  delegate : Bool
  deriving DecidableEq

namespace FormTableViewCell

/-- `init(style:reuseIdentifier:)` -/
def made : FormTableViewCell := ⟨none, none, none, "", false⟩

/-- `configureCell(with:)` -/
def configureCell (c : FormTableViewCell) (model : EditProfileFormModel) : FormTableViewCell :=
  { c with model := some model, formLabel := some model.label
           placeholder := some model.placeholder, text := model.value.getD "" }

/-- `prepareForReuse()` -/
def prepareForReuse (c : FormTableViewCell) : FormTableViewCell :=
  { c with formLabel := none, placeholder := none, text := "" }

/-- `textFieldShouldReturn(_:)`: the model the delegate is handed, a copy with a new value. -/
def textFieldShouldReturn (c : FormTableViewCell) : Option EditProfileFormModel :=
  if c.delegate then c.model.map fun model => { model with value := some c.text } else none

end FormTableViewCell

/-- The one class of cells of the form. -/
def formCells : CellRegistry Unit Unit FormTableViewCell where
  make _ _ := .made
  prepareForReuse := FormTableViewCell.prepareForReuse
  identifier _ := some ()

/-! ## The form -/

structure EditProfileViewController where
  formModels : List (List EditProfileFormModel)
  deriving DecidableEq

/-- What the user does to a field: type, or press Return when it reads `text`. -/
inductive FieldEvent where
  | typed (text : String)
  | returned (text : String)

namespace EditProfileViewController

def firstSectionLabels : List String := ["Name", "Username", "Website", "Bio"]

def secondSectionLabels : List String := ["Email", "Phone", "Gender"]

/-- `configureModels()` -/
def configureModels (form : EditProfileViewController) : EditProfileViewController :=
  let models := List.map fun label => ({ label, placeholder := label, value := none } :
    EditProfileFormModel)
  ⟨form.formModels ++ [models firstSectionLabels, models secondSectionLabels]⟩

/-- The form after `viewDidLoad()`. -/
def loaded : EditProfileViewController := configureModels ⟨[]⟩

variable (form : EditProfileViewController)

/-- `numberOfSections(in:)` -/
def numberOfSections : ℕ := form.formModels.length

/-- `tableView(_:numberOfRowsInSection:)` -/
def numberOfRowsInSection (x : ℕ) : Option ℕ := do
  let models ← form.formModels[x]?
  return models.length

/-- `tableView(_:cellForRowAt:)` -/
def cellForRowAt (dequeueReusableCell : Unit → FormTableViewCell) (ix : IndexPath) :
    Option FormTableViewCell := do
  let models ← form.formModels[ix.sectionIdx]?
  let model ← models[ix.row]?
  return { (dequeueReusableCell ()).configureCell model with delegate := true }

/-- `formTableViewCellUpdate(_:didUpdateField:)`, which prints the value. -/
def formTableViewCellUpdate (_updatedModel : Option EditProfileFormModel) :
    EditProfileViewController := form

/-- The form as a data source. -/
def dataSource : DataSource Unit FormTableViewCell where
  numberOfSections := form.numberOfSections
  numberOfRows := form.numberOfRowsInSection
  cellForRow := form.cellForRowAt

/-- What an event in the field of `c` does to the cell and to the form. -/
def touch (c : FormTableViewCell) :
    FieldEvent → Option (FormTableViewCell × EditProfileViewController)
  | .typed text => some ({ c with text }, form)
  | .returned text =>
    if c.text = text then
      some (c, (c.textFieldShouldReturn.map fun model =>
        form.formTableViewCellUpdate (some model)).getD form)
    else none

/-- The form, as its user sees it. -/
def live : Live Unit Unit FormTableViewCell EditProfileViewController FieldEvent where
  registry := formCells
  dataSource := dataSource
  touch := touch

/-! ## What has been committed -/

/-- The text last committed in a row. -/
def committed (ix : IndexPath) : List (Event FormTableViewCell FieldEvent) → Option String
  | [] => none
  | .touched ix' (.returned text) :: trace => if ix' = ix then some text else committed ix trace
  | _ :: trace => committed ix trace

/-- The row has been typed in since it came on screen or since the last Return in it. -/
def typing (ix : IndexPath) : List (Event FormTableViewCell FieldEvent) → Bool
  | [] => false
  | .touched ix' (.typed _) :: trace => if ix' = ix then true else typing ix trace
  | .touched ix' (.returned _) :: trace => if ix' = ix then false else typing ix trace
  | .scroll (.appeared ix' _) :: trace => if ix' = ix then false else typing ix trace
  | .scroll (.disappeared _) :: trace => typing ix trace

/-- **No committed edit is lost**: a row on screen that is not being typed in shows the text last
committed in it, and Return in one row changes neither another row nor the form. -/
structure KeepsEdits (trace : List (Event FormTableViewCell FieldEvent))
    (T : Table FormTableViewCell × EditProfileViewController) : Prop where
  shown : ∀ ix c, T.1.shown ix = some c → typing ix trace = false →
    c.text = (committed ix trace).getD ""
  apart : ∀ ix text T', Step live T (.touched ix (.returned text)) T' →
    T'.2 = T.2 ∧ ∀ ix', ix' ≠ ix → T'.1.shown ix' = T.1.shown ix'

/-- No edit is lost at any time of a run. -/
def AlwaysKeepsEdits (trace : List (Event FormTableViewCell FieldEvent)) : Prop :=
  ∀ later earlier T, trace = later ++ earlier → Run (Step live) (Table.empty, loaded) earlier T →
    KeepsEdits earlier T

/-- No row comes on screen when the last text committed in it is non-empty. -/
def NoneBack (trace : List (Event FormTableViewCell FieldEvent)) : Prop :=
  ∀ later ix c earlier, trace = later ++ .scroll (.appeared ix c) :: earlier →
    (committed ix earlier).getD "" = ""

variable {trace earlier later : List (Event FormTableViewCell FieldEvent)}
  {T T' : Table FormTableViewCell × EditProfileViewController} {ix : IndexPath}
  {c c' : FormTableViewCell} {e : Event FormTableViewCell FieldEvent}

/-- What happens in one row commits nothing in another. -/
theorem committed_of_ne (h : ix ≠ e.row) : committed ix (e :: trace) = committed ix trace := by
  cases e with
  | scroll => rfl
  | touched ix' e =>
    cases e with
    | typed => rfl
    | returned text => exact if_neg (Ne.symm h)

theorem typing_of_ne (h : ix ≠ e.row) : typing ix (e :: trace) = typing ix trace := by
  cases e with
  | scroll e =>
    cases e with
    | appeared => exact if_neg (Ne.symm h)
    | disappeared => rfl
  | touched ix' e =>
    cases e with
    | typed => exact if_neg (Ne.symm h)
    | returned text => exact if_neg (Ne.symm h)

/-! ## What the form shows -/

/-- The form starts without values. -/
theorem value_of_loaded {x r : ℕ} {models : List EditProfileFormModel} {m : EditProfileFormModel}
    (hmodels : loaded.formModels[x]? = some models) (hm : models[r]? = some m) :
    m.value = none := by
  have hall : ∀ models ∈ loaded.formModels, ∀ m ∈ models, m.value = none := by decide
  exact hall _ (List.mem_of_getElem? hmodels) _ (List.mem_of_getElem? hm)

/-- **A row comes on screen blank.** -/
theorem text_of_cellForRowAt {d : Unit → FormTableViewCell}
    (h : loaded.cellForRowAt d ix = some c) : c.text = "" := by
  simp only [cellForRowAt, Option.bind_eq_bind, Option.bind_eq_some_iff] at h
  obtain ⟨models, hmodels, m, hm, heq⟩ := h
  obtain rfl := Option.some.inj heq
  rw [FormTableViewCell.configureCell, value_of_loaded hmodels hm]
  rfl

/-- Touching a field leaves the form as it was. -/
theorem form_of_touch {form form' : EditProfileViewController} {e : FieldEvent}
    (h : form.touch c e = some (c', form')) : form' = form := by
  cases e with
  | typed text => exact (Prod.mk.inj (Option.some.inj h)).2.symm
  | returned text =>
    rw [touch, Option.ite_none_right_eq_some] at h
    rw [← (Prod.mk.inj (Option.some.inj h.2)).2]
    cases c.textFieldShouldReturn <;> rfl

/-- Return is pressed when the field reads `text`, and leaves it so. -/
theorem text_of_returned {form form' : EditProfileViewController} {text : String}
    (h : form.touch c (.returned text) = some (c', form')) : c'.text = text := by
  rw [touch, Option.ite_none_right_eq_some] at h
  rw [← (Prod.mk.inj (Option.some.inj h.2)).1]
  exact h.1

theorem form_of_step (h : Step live T e T') : T'.2 = T.2 := by
  cases h with
  | scroll => rfl
  | touched _ htouch => exact form_of_touch htouch

theorem form_of_run (h : Run (Step live) (Table.empty, loaded) trace T) : T.2 = loaded := by
  induction h with
  | nil => rfl
  | cons _ hs ih => exact (form_of_step hs).trans ih

/-- Any row that comes on screen in a run is blank. -/
theorem text_of_appeared (h : Run (Step live) (Table.empty, loaded) trace T)
    (hs : Step live T (.scroll (.appeared ix c)) T') : c.text = "" := by
  cases hs with
  | scroll hs =>
    cases hs with
    | appeared _ _ _ hcell _ =>
      have hform := form_of_run h
      dsimp only at hform
      rw [hform] at hcell
      exact text_of_cellForRowAt hcell

/-- Return in one row changes no other. -/
theorem apart (T : Table FormTableViewCell × EditProfileViewController) :
    ∀ ix text T', Step live T (.touched ix (.returned text)) T' →
      T'.2 = T.2 ∧ ∀ ix', ix' ≠ ix → T'.1.shown ix' = T.1.shown ix' :=
  fun _ _ _ h => ⟨form_of_step h, (shown_step h).2⟩

/-- **As long as no row comes back**, a row shows what has been committed in it. -/
theorem shown_of_noneBack (h : Run (Step live) (Table.empty, loaded) trace T)
    (hb : NoneBack trace) : ∀ ix c, T.1.shown ix = some c → typing ix trace = false →
      c.text = (committed ix trace).getD "" := by
  induction h with
  | nil => exact fun _ _ hc => nomatch hc
  | @cons trace T e T' hrun hs ih =>
    have hb' : NoneBack trace := fun later ix c earlier htrace =>
      hb (e :: later) ix c earlier (by rw [htrace]; rfl)
    intro ix c hc htyping
    obtain ⟨hrow, hothers⟩ := shown_step hs
    by_cases hix : ix = e.row
    · subst hix
      rw [hc] at hrow
      cases hrow with
      | @appeared ix c d =>
        -- a row that comes on screen is blank, and so is what has been committed in it
        exact (text_of_appeared hrun hs).trans (hb [] ix c trace rfl).symm
      | @touched ix c e c' s' hshown htouch =>
        cases e with
        | typed text => exact absurd htyping (by simp [typing, Event.row])
        | returned text => simpa [committed, Event.row] using text_of_returned htouch
    · rw [committed_of_ne hix]
      rw [typing_of_ne hix] at htyping
      exact ih hb' ix c ((hothers ix hix).symm.trans hc) htyping

/-- **When no edit is lost**: exactly when no row comes on screen that non-empty text has last been
committed in. -/
theorem keepsEdits_iff (h : Run (Step live) (Table.empty, loaded) trace T) :
    AlwaysKeepsEdits trace ↔ NoneBack trace := by
  constructor
  · intro hkeeps later ix c earlier htrace
    rw [htrace] at h
    obtain ⟨T₁, hrun⟩ := h.earlier
    have hkept := hkeeps later _ T₁ htrace hrun
    cases hrun with
    | cons hearlier hs =>
      have htyping : typing ix (.scroll (.appeared ix c) :: earlier) = false := if_pos rfl
      have htext := hkept.shown ix c (shown_of_appeared hs) htyping
      have hblank : c.text = "" := text_of_appeared hearlier hs
      exact htext.symm.trans hblank
  · rintro hb later earlier T₁ rfl hrun
    refine ⟨shown_of_noneBack hrun fun later' ix c earlier' htrace => ?_, apart T₁⟩
    exact hb (later ++ later') ix c earlier' (by rw [htrace, List.append_assoc])

/-! ## A name that does not stay -/

/-- The first row of the form in a new cell; coming back in the same cell it looks alike. -/
def nameCell : FormTableViewCell :=
  { FormTableViewCell.made.configureCell ⟨"Name", "Name", none⟩ with delegate := true }

/-- The name has come on screen, been typed, and been committed. -/
def ruthCommitted : List (Event FormTableViewCell FieldEvent) :=
  [.touched ⟨0, 0⟩ (.returned "ruth"), .touched ⟨0, 0⟩ (.typed "ruth"),
    .scroll (.appeared ⟨0, 0⟩ nameCell)]

theorem hasRow_name : loaded.dataSource.HasRow ⟨0, 0⟩ := ⟨by decide, 4, rfl, by decide⟩

theorem run_ruthCommitted : ∃ t, Run (Step live) (Table.empty, loaded) ruthCommitted (t, loaded) ∧
    t.shown ⟨0, 0⟩ = some { nameCell with text := "ruth" } := by
  have htype : live.touch loaded nameCell (.typed "ruth")
      = some ({ nameCell with text := "ruth" }, loaded) := rfl
  have hreturn : live.touch loaded { nameCell with text := "ruth" } (.returned "ruth")
      = some ({ nameCell with text := "ruth" }, loaded) := rfl
  obtain ⟨t, hrun, hshown⟩ := LiveTable.exists_appeared (L := live) (m := ()) hasRow_name
    (show loaded.cellForRowAt (fun _ => FormTableViewCell.made) ⟨0, 0⟩ = some nameCell from rfl)
  obtain ⟨t, hrun, hshown⟩ := exists_touched hrun hshown htype
  exact exists_touched hrun hshown hreturn

/-- As long as the row stays on screen, all is well. -/
theorem ruthCommitted_kept : ∃ T, Run (Step live) (Table.empty, loaded) ruthCommitted T ∧
    (AlwaysKeepsEdits ruthCommitted ↔ NoneBack ruthCommitted) := by
  obtain ⟨t, hrun, -⟩ := run_ruthCommitted
  exact ⟨_, hrun, keepsEdits_iff hrun⟩

/-- **Scrolled away and back, the row is blank**: the committed "ruth" is lost. -/
theorem ruth_lost : ∃ T, Run (Step live) (Table.empty, loaded)
      (.scroll (.appeared ⟨0, 0⟩ nameCell) :: .scroll (.disappeared ⟨0, 0⟩) :: ruthCommitted) T ∧
    ¬ KeepsEdits
      (.scroll (.appeared ⟨0, 0⟩ nameCell) :: .scroll (.disappeared ⟨0, 0⟩) :: ruthCommitted)
      T := by
  obtain ⟨t, hrun, hshown⟩ := run_ruthCommitted
  have hback : loaded.cellForRowAt
      (fun _ => FormTableViewCell.prepareForReuse { nameCell with text := "ruth" }) ⟨0, 0⟩
        = some nameCell := rfl
  obtain ⟨t', hrun', hshown'⟩ := exists_back hrun hshown hasRow_name (fun _ => ⟨rfl, rfl⟩) hback
  refine ⟨_, hrun', fun h => ?_⟩
  exact absurd (h.shown ⟨0, 0⟩ nameCell hshown' rfl) (by decide)

end EditProfileViewController

end InstaGLAM
