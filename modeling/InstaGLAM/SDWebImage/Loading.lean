import InstaGLAM.SDWebImage.Places

/-!
# SDWebImage/Loading — what the image views show in any run

    any blocks in any order ──▸ per place: its own commands, and completions of its own loads

`slots_of_run` is the refinement: whatever the manager does for all places together, each place goes
through a history of the slot of `Machinery/ImageSlot` with exactly the commands it was given.  So
it never shows the picture of a `URL` other than its last one.  Two facts about the end of a load
follow: if nothing fails every place ends with its picture (`loaded_of_finished`), and a `URL` that
has failed for good is not shown again, whatever the caches have (`blocked_of_failed`).
-/

namespace InstaGLAM.SDWebImage

open ImageSlot Trace

variable {ι : Type*} [DecidableEq ι] {w w' : WebCache ι} {e : Event ι} {v view : ι} {id : ℕ}
  {op : CombinedOperation ι} {url : URL} {trace : List (Event ι)}

/-! ## The URLs that are not looked for -/

theorem failedURLs_finish (w : WebCache ι) (id : ℕ) (op : CombinedOperation ι)
    (image : Option Picture) : (w.finish id op image).failedURLs = w.failedURLs := by
  cases image <;> rfl

theorem failedURLs_callDownloadProcess (w : WebCache ι) (id : ℕ) (op : CombinedOperation ι)
    (image : Option Picture) : (w.callDownloadProcess id op image).failedURLs = w.failedURLs := by
  cases image <;> rfl

theorem failedURLs_sdSetImage (h : w.Sound) (view : ι) (url : URL) :
    (w.sdSetImage view url).failedURLs = w.failedURLs := by
  obtain ⟨-, -, -, ⟨-, -, hfailed⟩, -⟩ := WebCache.cleared_spec h.indexed h.coherent view
  rw [WebCache.sdSetImage_eq h.indexed h.coherent]
  split_ifs
  · exact hfailed
  · cases w.memoryCache url <;> exact hfailed

/-- **Only a download that fails for good adds a `URL`**, and none is ever taken away. -/
theorem failedURLs_step (h : w.Sound) (hs : Step w e w') : w'.failedURLs = w.failedURLs ∨
    ∃ id op, e = .downloaded id (.failed true) ∧ w.operations id = some op ∧
      w'.failedURLs = op.url :: w.failedURLs := by
  cases hs with
  | sdSetImage => exact Or.inl (failedURLs_sdSetImage h ..)
  | setImage | diskWritten | evicted | expired => exact Or.inl rfl
  | @diskQueried id op hop hstage =>
    rw [WebCache.diskQueried]
    split_ifs
    · exact Or.inl (failedURLs_finish ..)
    · cases w.diskCache op.url <;> exact Or.inl rfl
  | @cacheAnswered id op diskImage hop hstage =>
    rw [WebCache.cacheAnswered]
    split_ifs
    · exact Or.inl (failedURLs_finish ..)
    · exact Or.inl (failedURLs_callDownloadProcess ..)
  | @downloaded id op result hop hstage =>
    unfold WebCache.downloaded
    split_ifs
    · exact Or.inl (failedURLs_finish ..)
    · cases result with
      | succeeded => exact Or.inl (failedURLs_finish ..)
      | failed block =>
        cases block with
        | false => exact Or.inl (failedURLs_finish ..)
        | true =>
          exact Or.inr ⟨id, op, rfl, hop, congrArg (op.url :: ·) (failedURLs_finish ..)⟩

/-! ## Runs -/

/-- The commands a place is given in a run, the latest first. -/
def commands (v : ι) (trace : List (Event ι)) : List (SlotEvent URL Picture) :=
  trace.filterMap (Event.command v)

/-- A download fails in the run. -/
def SomeFailed (trace : List (Event ι)) : Prop := ∃ id block, .downloaded id (.failed block) ∈ trace

theorem commands_cons (v : ι) (e : Event ι) (trace : List (Event ι)) :
    commands v (e :: trace) = (e.command v).toList ++ commands v trace := by
  rw [commands, List.filterMap_cons]
  cases e.command v <;> rfl

/-- The history of a place, with the commands it is given and no picture of another `URL`; a
completion without a picture comes of an empty `URL` or a failed download. -/
structure HistoryOf (trace : List (Event ι)) (w : WebCache ι) (v : ι)
    (history : List (SlotEvent URL Picture)) : Prop where
  commands : history.filter SlotEvent.isCommand = commands v trace
  pictures : ∀ url picture, .complete url (some picture) ∈ history → picture = .loaded url
  failures : ∀ url, .complete url none ∈ history → url = [] ∨ SomeFailed trace
  slot : w.slot v = Slot.after history

/-- What a run keeps. -/
theorem exists_history (h : Run Step WebCache.initial trace w) : w.Sound ∧
    (w.failedURLs ≠ [] → SomeFailed trace) ∧ ∀ v, ∃ history, HistoryOf trace w v history := by
  refine h.invariant (I := fun trace w => w.Sound ∧ (w.failedURLs ≠ [] → SomeFailed trace) ∧
    ∀ v, ∃ history, HistoryOf trace w v history) ⟨WebCache.sound_initial, fun hne => absurd rfl hne,
      fun v => ⟨[], rfl, by simp, by simp, rfl⟩⟩ ?_
  rintro trace w e w' ⟨hsound, hfailed, hv⟩ hs
  have hlater : SomeFailed trace → SomeFailed (e :: trace) := fun ⟨id, block, hmem⟩ =>
    ⟨id, block, List.mem_cons_of_mem _ hmem⟩
  obtain ⟨hsound', hstep⟩ := slot_step hsound hs
  refine ⟨hsound', fun hne => ?_, fun v => ?_⟩
  · rcases failedURLs_step hsound hs with heq | ⟨id, op, rfl, -, -⟩
    · exact hlater (hfailed (heq ▸ hne))
    · exact ⟨id, true, List.mem_cons_self⟩
  · obtain ⟨history, hcommands, hpictures, hfailures, hslot⟩ := hv v
    obtain ⟨es, hseen⟩ := hstep v
    refine ⟨es ++ history, ?_, fun url picture hmem => ?_, fun url hmem => ?_, ?_⟩
    · rw [List.filter_append, hseen.commands, hcommands, commands_cons]
    · exact (List.mem_append.1 hmem).elim (hseen.pictures url picture) (hpictures url picture)
    · rcases List.mem_append.1 hmem with hmem | hmem
      · have hfail := hseen.failures url hmem
        match e, hfail with
        | .downloaded id (.failed block), _ => exact Or.inr ⟨id, block, List.mem_cons_self⟩
        | .sdSetImage view url', ⟨_, hskip⟩ =>
          exact hskip.imp_right fun hurl => hlater (hfailed (List.ne_nil_of_mem hurl))
      · exact (hfailures url hmem).imp_right hlater
    · rw [hseen.slot, hslot, Slot.after, Slot.after, List.foldr_append]

/-- **Each place is an image slot**: in every run it goes through a history of the slot with exactly
the commands it was given, whatever is done to other places and in whatever order blocks run; so it
shows the picture of the last `URL` it was set to, an image it has been given by hand since, or
nothing. -/
theorem slots_of_run (h : Run Step WebCache.initial trace w) (v : ι) :
    (∃ history, HistoryOf trace w v history) ∧
    ∀ picture, w.image v = some picture →
      (lastSet (commands v trace)).1.map Picture.loaded = some picture ∨
        some picture ∈ (lastSet (commands v trace)).2 := by
  obtain ⟨history, hhistory⟩ := (exists_history h).2.2 v
  refine ⟨⟨history, hhistory⟩, fun picture himage => ?_⟩
  have hshown : (Slot.after history).image = some picture := by
    rw [← hhistory.slot]
    exact himage
  rw [← hhistory.commands, lastSet_filter]
  exact (shown_of_after hhistory.pictures).1 picture hshown

/-- Two places, and a picture on its way to one of them. -/
theorem run_downloading : ∃ w : WebCache Bool, ∃ op : CombinedOperation Bool,
    Run Step WebCache.initial [.cacheAnswered 0, .diskQueried 0, .sdSetImage true ['a']] w ∧
      w.operations 0 = some op ∧ op = ⟨true, ['a'], false, .downloading⟩ := by
  have hset : Run Step (WebCache.initial : WebCache Bool) [.sdSetImage true ['a']] _ :=
    Run.nil.cons .sdSetImage
  have hquery := hset.cons (@Step.diskQueried _ _ _ 0 _ rfl rfl)
  have hanswer := hquery.cons (@Step.cacheAnswered _ _ _ 0 _ none rfl rfl)
  exact ⟨_, _, hanswer, rfl, rfl⟩

/-- The place is set to another `URL` before the picture arrives. -/
theorem slots_of_superseded : ∃ w : WebCache Bool,
    Run Step WebCache.initial
      [.downloaded 0 .succeeded, .sdSetImage true ['b'], .cacheAnswered 0, .diskQueried 0,
        .sdSetImage true ['a']] w ∧
    ∀ picture, w.image true = some picture → picture = .loaded ['b'] := by
  have hset : Run Step (WebCache.initial : WebCache Bool) [.sdSetImage true ['a']] _ :=
    Run.nil.cons .sdSetImage
  have hquery := hset.cons (@Step.diskQueried _ _ _ 0 _ rfl rfl)
  have hanswer := hquery.cons (@Step.cacheAnswered _ _ _ 0 _ none rfl rfl)
  have hagain := hanswer.cons (@Step.sdSetImage _ _ _ true ['b'])
  have hlate := hagain.cons (@Step.downloaded _ _ _ 0 _ .succeeded rfl rfl)
  refine ⟨_, hlate, fun picture himage => ?_⟩
  rcases (slots_of_run hlate true).2 picture himage with hurl | hmem
  · exact (Option.some.inj hurl).symm
  · exact nomatch hmem

/-! ## The end of a load -/

omit [DecidableEq ι] in
/-- Nothing is in progress at a place when every operation has finished. -/
theorem loading_of_finished (hall : ∀ id op, w.operations id = some op → op.stage = .finished)
    (v : ι) : w.loading v = none := by
  rw [WebCache.loading]
  split
  · rfl
  · split
    · rfl
    · next op hop =>
      have hdead : op.live = false := by simp [CombinedOperation.live, hall _ op hop]
      rw [hdead]
      rfl

/-- **If nothing fails, nothing is missing**: once all operations have finished, every place that
was last set to a `URL` shows its picture. -/
theorem loaded_of_finished (h : Run Step WebCache.initial trace w) (hfails : ¬ SomeFailed trace)
    (hall : ∀ id op, w.operations id = some op → op.stage = .finished) (hurl : url ≠ [])
    (hlast : (commands v trace).head? = some (.set url)) :
    w.image v = some (.loaded url) := by
  obtain ⟨history, hhistory⟩ := (exists_history h).2.2 v
  rw [← hhistory.commands] at hlast
  have hnone : SlotEvent.complete url none ∉ history := fun hmem =>
    (hhistory.failures url hmem).elim hurl hfails
  rcases loads_of_after hhistory.pictures hnone hlast with hloading | hdone
  · have hidle : w.loading v = none := loading_of_finished hall v
    exact nomatch (congrArg Slot.loading (hhistory.slot.trans hloading)).symm.trans hidle
  · exact congrArg Slot.image (hhistory.slot.trans hdone)

/-- Two places are set, the first one again while its load is on its way, and every load ends. -/
def twoPlaces : List (Event Bool) :=
  [.downloaded 2 .succeeded, .cacheAnswered 2, .downloaded 1 .succeeded, .diskQueried 2,
    .diskQueried 0, .cacheAnswered 1, .sdSetImage true ['c'], .diskQueried 1,
    .sdSetImage false ['b'], .sdSetImage true ['a']]

theorem run_twoPlaces : ∃ w : WebCache Bool, Run Step WebCache.initial twoPlaces w ∧
    w.created = 3 ∧ ∀ id, id < 3 → ∃ op, w.operations id = some op ∧ op.stage = .finished := by
  have hfirst : Run Step (WebCache.initial : WebCache Bool) [.sdSetImage true ['a']] _ :=
    Run.nil.cons .sdSetImage
  have hother := hfirst.cons (@Step.sdSetImage _ _ _ false ['b'])
  have hquery := hother.cons (@Step.diskQueried _ _ _ 1 _ rfl rfl)
  have hagain := hquery.cons (@Step.sdSetImage _ _ _ true ['c'])
  have hanswer := hagain.cons (@Step.cacheAnswered _ _ _ 1 _ none rfl rfl)
  -- the first load finds itself cancelled
  have hlate := hanswer.cons (@Step.diskQueried _ _ _ 0 _ rfl rfl)
  have hquery' := hlate.cons (@Step.diskQueried _ _ _ 2 _ rfl rfl)
  have harrive := hquery'.cons (@Step.downloaded _ _ _ 1 _ .succeeded rfl rfl)
  have hanswer' := harrive.cons (@Step.cacheAnswered _ _ _ 2 _ none rfl rfl)
  have hdone := hanswer'.cons (@Step.downloaded _ _ _ 2 _ .succeeded rfl rfl)
  refine ⟨_, hdone, rfl, fun id hid => ?_⟩
  rcases id with - | - | - | id
  · exact ⟨_, rfl, rfl⟩
  · exact ⟨_, rfl, rfl⟩
  · exact ⟨_, rfl, rfl⟩
  · omega

/-- Each place shows its own picture, the first one the later of the two. -/
theorem loaded_of_downloaded : ∃ w : WebCache Bool, Run Step WebCache.initial twoPlaces w ∧
    w.image true = some (.loaded ['c']) ∧ w.image false = some (.loaded ['b']) := by
  obtain ⟨w, hrun, hcreated, hdone⟩ := run_twoPlaces
  have hfails : ¬ SomeFailed twoPlaces := by
    rintro ⟨id, block, hmem⟩
    simp [twoPlaces] at hmem
  have hall : ∀ id op, w.operations id = some op → op.stage = .finished := by
    intro id op hop
    by_cases hid : id < 3
    · obtain ⟨op', hop', hstage⟩ := hdone id hid
      obtain rfl := Option.some.inj (hop'.symm.trans hop)
      exact hstage
    · have hfresh := (exists_history hrun).1.indexed.fresh id (by omega)
      exact absurd (hfresh.symm.trans hop) (Option.some_ne_none op).symm
  exact ⟨w, hrun, loaded_of_finished hrun hfails hall (by decide) rfl,
    loaded_of_finished hrun hfails hall (by decide) rfl⟩

/-- A place set to a `URL` that is not looked for is empty. -/
theorem slot_sdSetImage_of_failed (h : w.Sound) (hurl : url ∈ w.failedURLs) (view : ι) :
    (w.sdSetImage view url).slot view = ⟨none, none⟩ := by
  have hskip : url = [] ∨ url ∈ w.failedURLs := Or.inr hurl
  rw [WebCache.sdSetImage_eq h.indexed h.coherent, if_pos hskip]
  obtain ⟨-, -, hslot⟩ := WebCache.enter_cleared_spec h.indexed h.coherent view url .finished
    (fun _ => nofun)
  exact (hslot view).trans (if_pos rfl)

/-- A place is set to a `URL` in one way. -/
theorem eq_sdSetImage_of_command (h : e.command v = some (.set url)) : e = .sdSetImage v url := by
  cases e with
  | sdSetImage view url' =>
    rw [Event.command] at h
    split_ifs at h with hv
    rw [hv, SlotEvent.set.inj (Option.some.inj h)]
  | setImage view image =>
    rw [Event.command] at h
    split_ifs at h
    simp at h
  | _ => simp [Event.command] at h

/-- What a run from a state with a blocked `URL` keeps. -/
theorem blocked_of_run (h : Run Step w trace w') (hsound : w.Sound) (hurl : url ∈ w.failedURLs) :
    w'.Sound ∧ url ∈ w'.failedURLs ∧
      ∀ v, (commands v trace).head? = some (.set url) → w'.slot v = ⟨none, none⟩ := by
  refine h.invariant (I := fun trace w' => w'.Sound ∧ url ∈ w'.failedURLs ∧
    ∀ v, (commands v trace).head? = some (.set url) → w'.slot v = ⟨none, none⟩)
    ⟨hsound, hurl, fun v hlast => nomatch hlast⟩ ?_
  rintro trace w e w' ⟨hsound, hurl, hblocked⟩ hs
  obtain ⟨hsound', hstep⟩ := slot_step hsound hs
  refine ⟨hsound', ?_, fun v hlast => ?_⟩
  · rcases failedURLs_step hsound hs with heq | ⟨_, _, -, -, heq⟩
    · exact heq ▸ hurl
    · exact heq ▸ List.mem_cons_of_mem _ hurl
  · obtain ⟨es, hseen⟩ := hstep v
    cases hcommand : e.command v with
    | none =>
      -- the place sees completions only, and has no load they could be of
      have hidle : (w.slot v) = ⟨none, none⟩ := hblocked v (by
        rwa [commands_cons, hcommand] at hlast)
      rw [hseen.slot, foldr_of_idle (by rw [hseen.commands, hcommand]; rfl)
        (congrArg Slot.loading hidle), hidle]
    | some c =>
      rw [commands_cons, hcommand] at hlast
      obtain rfl : c = .set url := Option.some.inj hlast
      obtain rfl := eq_sdSetImage_of_command hcommand
      cases hs with
      | sdSetImage => exact slot_sdSetImage_of_failed hsound hurl v

/-- **A `URL` that has failed for good is not shown again**: after its download has failed with an
error that blocks it, a place set to it is empty, whatever the caches have got meanwhile. -/
theorem blocked_of_failed (h : Run Step WebCache.initial trace w)
    (hop : w.operations id = some op) (hstage : op.stage = .downloading)
    (hcancelled : op.isCancelled = false) {later : List (Event ι)}
    (hlater : Run Step (w.downloaded id op (.failed true)) later w')
    (hlast : (commands v later).head? = some (.set op.url)) :
    w'.image v = none ∧ w'.loading v = none := by
  obtain ⟨hsound, -⟩ := exists_history h
  have hurl : op.url ∈ (w.downloaded id op (.failed true)).failedURLs := by
    rw [WebCache.downloaded, hcancelled]
    exact List.mem_cons_self
  have hs : Step w (.downloaded id (.failed true)) (w.downloaded id op (.failed true)) :=
    .downloaded hop hstage
  have hstep := (slot_step hsound hs).1
  have hslot := (blocked_of_run hlater hstep hurl).2.2 v hlast
  exact ⟨congrArg Slot.image hslot, congrArg Slot.loading hslot⟩

/-- The picture on its way does not arrive, and the other place is set to its `URL`. -/
theorem blocked_of_downloaded : ∃ w w' : WebCache Bool, Run Step WebCache.initial
    [.cacheAnswered 0, .diskQueried 0, .sdSetImage true ['a']] w ∧
    Run Step (w.downloaded 0 ⟨true, ['a'], false, .downloading⟩ (.failed true))
      [.sdSetImage false ['a']] w' ∧ w'.image false = none ∧ w'.loading false = none := by
  obtain ⟨w, op, hrun, hop, rfl⟩ := run_downloading
  refine ⟨w, _, hrun, Run.nil.cons .sdSetImage, ?_⟩
  exact blocked_of_failed hrun hop rfl rfl (Run.nil.cons .sdSetImage) rfl

end InstaGLAM.SDWebImage
