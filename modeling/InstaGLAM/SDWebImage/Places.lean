import InstaGLAM.Machinery.ImageSlot
import InstaGLAM.SDWebImage.WebCache
import Mathlib.Tactic.SplitIfs

/-!
# SDWebImage/Places — each place is an image slot

    place v ──slot──▸ its image, and the URL of the live operation its entry names

Seen from one place, all that the manager does comes down to the slot of `Machinery/ImageSlot`:
`slot_step` for one step, `exists_history` for a run.  What carries it is that an operation that is
neither cancelled nor finished is the one its place has an entry for (`Indexed.current`), and that a
cache has nothing but the picture of a `URL` under its key (`Coherent`).
-/

namespace InstaGLAM.SDWebImage

open ImageSlot Trace

/-- The operation may still set the image of its place. -/
def CombinedOperation.live {ι : Type*} (op : CombinedOperation ι) : Bool :=
  !op.isCancelled && match op.stage with
    | .finished => false
    | .querying | .answering _ | .downloading => true

theorem live_of_finished {ι : Type*} (op : CombinedOperation ι) :
    ({ op with stage := .finished } : CombinedOperation ι).live = false := by
  simp [CombinedOperation.live]

namespace WebCache

variable {ι : Type*} {w w' : WebCache ι} {id : ℕ} {op : CombinedOperation ι} {v view : ι}
  {url : URL}

/-! ## The slot of a place -/

/-- The `URL` of the load in progress at a place. -/
def loading (w : WebCache ι) (v : ι) : Option URL :=
  match w.operationDictionary v with
  | none => none
  | some id =>
    match w.operations id with
    | none => none
    | some op => if op.live then some op.url else none

/-- **A place as a slot.** -/
def slot (w : WebCache ι) (v : ι) : Slot URL Picture := ⟨w.image v, w.loading v⟩

/-- **Operations and entries fit together**: a live operation is the one its place has an entry for,
and an entry names an operation of its own place. -/
structure Indexed (w : WebCache ι) : Prop where
  fresh : ∀ id, w.created ≤ id → w.operations id = none
  current : ∀ id op, w.operations id = some op → op.live = true →
    w.operationDictionary op.view = some id
  entry : ∀ v id, w.operationDictionary v = some id → ∃ op, w.operations id = some op ∧ op.view = v

/-- **No cache, and no answer of one, has a picture under another `URL`.** -/
structure Coherent (w : WebCache ι) : Prop where
  memory : ∀ url picture, w.memoryCache url = some picture → picture = .loaded url
  disk : ∀ url picture, w.diskCache url = some picture → picture = .loaded url
  writes : ∀ url picture, (url, picture) ∈ w.diskWrites → picture = .loaded url
  answers : ∀ id op picture, w.operations id = some op → op.stage = .answering (some picture) →
    picture = .loaded op.url

theorem loading_of_no_entry (hv : w.operationDictionary v = none) : w.loading v = none := by
  simp only [loading, hv]

theorem loading_of_entry (hv : w.operationDictionary v = some id)
    (hop : w.operations id = some op) :
    w.loading v = if op.live then some op.url else none := by
  simp only [loading, hv, hop]

/-- What a place is loading depends on its own entry, and the operation it names. -/
theorem loading_congr (hentry : w'.operationDictionary v = w.operationDictionary v)
    (hop : ∀ id, w.operationDictionary v = some id → w'.operations id = w.operations id) :
    w'.loading v = w.loading v := by
  rw [loading, loading, hentry]
  cases hid : w.operationDictionary v with
  | none => rfl
  | some id => simp only [hop id hid]

/-! ## Replacing an operation -/

@[simp] theorem setOperation_self (op' : CombinedOperation ι) :
    (w.setOperation id op').operations id = some op' := Function.update_self ..

theorem setOperation_of_ne {id' : ℕ} (op' : CombinedOperation ι) (h : id' ≠ id) :
    (w.setOperation id op').operations id' = w.operations id' := Function.update_of_ne h ..

/-- An operation replaced by one of the same place, and no more alive, fits, too. -/
theorem Indexed.setOperation (h : w.Indexed) (hop : w.operations id = some op)
    (op' : CombinedOperation ι) (hview : op'.view = op.view)
    (hlive : op'.live = true → op.live = true) : (w.setOperation id op').Indexed := by
  refine ⟨fun i hi => ?_, fun i o hi ho => ?_, fun v i hv => ?_⟩
  · have hnone := h.fresh i hi
    have hne : i ≠ id := by
      rintro rfl
      exact nomatch hop.symm.trans hnone
    rwa [setOperation_of_ne _ hne]
  · by_cases hid : i = id
    · subst hid
      rw [setOperation_self] at hi
      obtain rfl := Option.some.inj hi
      rw [hview]
      exact h.current i op hop (hlive ho)
    · rw [setOperation_of_ne _ hid] at hi
      exact h.current i o hi ho
  · obtain ⟨o, ho, hov⟩ := h.entry v i hv
    by_cases hid : i = id
    · subst hid
      obtain rfl := Option.some.inj (hop.symm.trans ho)
      exact ⟨op', setOperation_self _, hview.trans hov⟩
    · exact ⟨o, (setOperation_of_ne _ hid).trans ho, hov⟩

/-- A place sees nothing of an operation that stays as alive as it was. -/
theorem loading_setOperation (hop : w.operations id = some op) {op' : CombinedOperation ι}
    (hlive : op'.live = op.live) (hurl : op'.url = op.url) :
    (w.setOperation id op').loading v = w.loading v := by
  by_cases hv : w.operationDictionary v = some id
  · have hentry : (w.setOperation id op').operationDictionary v = some id := hv
    rw [loading_of_entry hv hop, loading_of_entry hentry (setOperation_self op'), hlive, hurl]
  · refine loading_congr rfl fun i hi => setOperation_of_ne _ ?_
    rintro rfl
    exact hv hi

theorem Coherent.setOperation (h : w.Coherent) {op' : CombinedOperation ι}
    (hans : ∀ picture, op'.stage = .answering (some picture) → picture = .loaded op'.url) :
    (w.setOperation id op').Coherent := by
  refine ⟨h.memory, h.disk, h.writes, fun i o picture hi ho => ?_⟩
  by_cases hid : i = id
  · subst hid
    rw [setOperation_self] at hi
    obtain rfl := Option.some.inj hi
    exact hans picture ho
  · rw [setOperation_of_ne _ hid] at hi
    exact h.answers i o picture hi ho

variable [DecidableEq ι]

/-! ## Images -/

theorem slot_setImage (w : WebCache ι) (view : ι) (image : Option Picture) (v : ι) :
    (w.setImage view image).slot v =
      if v = view then (w.slot v).setImage image else w.slot v := by
  split_ifs with hv
  · subst hv
    exact congrArg (Slot.mk · _) (Function.update_self ..)
  · exact congrArg (Slot.mk · _) (Function.update_of_ne hv ..)

theorem Indexed.completed (h : w.Indexed) (view : ι) (image : Option Picture) :
    (w.completed view image).Indexed := by
  cases image with
  | none => exact h
  | some picture => exact ⟨h.fresh, h.current, h.entry⟩

theorem Coherent.completed (h : w.Coherent) (view : ι) (image : Option Picture) :
    (w.completed view image).Coherent := by
  cases image with
  | none => exact h
  | some picture => exact ⟨h.memory, h.disk, h.writes, h.answers⟩

theorem Indexed.finish (h : w.Indexed) (hop : w.operations id = some op) (image : Option Picture) :
    (w.finish id op image).Indexed :=
  have hdone : (w.setOperation id { op with stage := .finished }).Indexed :=
    h.setOperation hop _ rfl fun hlive => nomatch (live_of_finished op).symm.trans hlive
  hdone.completed ..

theorem Coherent.finish (h : w.Coherent) (id : ℕ) (op : CombinedOperation ι)
    (image : Option Picture) : (w.finish id op image).Coherent :=
  have hdone : (w.setOperation id { op with stage := .finished }).Coherent :=
    h.setOperation fun _ hstage => nomatch hstage
  hdone.completed ..

/-- **A completed block is a completion of the slot** while its operation is alive, and nothing
afterwards. -/
theorem slot_finish (h : w.Indexed) (hop : w.operations id = some op) {image : Option Picture}
    (hquiet : op.live = false → image = none) (v : ι) : (w.finish id op image).slot v =
      if op.live = true ∧ v = op.view then (w.slot v).complete op.url image else w.slot v := by
  have hdone := live_of_finished op
  cases hlive : op.live with
  | false =>
    rw [hquiet hlive, if_neg (fun hl => nomatch hl.1)]
    exact congrArg (Slot.mk _) (loading_setOperation hop (hdone.trans hlive.symm) rfl)
  | true =>
    have hentry := h.current id op hop hlive
    by_cases hv : v = op.view
    · subst hv
      have hloading : w.loading op.view = some op.url := by
        rw [loading_of_entry hentry hop, hlive, if_pos rfl]
      have hnone : (w.setOperation id { op with stage := .finished }).loading op.view = none := by
        have hentry' : (w.setOperation id { op with stage := .finished }).operationDictionary
          op.view = some id := hentry
        rw [loading_of_entry hentry' (setOperation_self _), hdone]
        rfl
      rw [if_pos ⟨rfl, rfl⟩, complete_of_loading hloading]
      cases image with
      | none => exact congrArg (Slot.mk _) hnone
      | some picture => exact congrArg₂ Slot.mk (Function.update_self ..) hnone
    · have hsame : (w.setOperation id { op with stage := .finished }).loading v = w.loading v := by
        refine loading_congr rfl fun i hi => setOperation_of_ne _ ?_
        rintro rfl
        obtain ⟨o, ho, hov⟩ := h.entry v i hi
        obtain rfl := Option.some.inj (hop.symm.trans ho)
        exact hv hov.symm
      rw [if_neg fun hl => hv hl.2]
      cases image with
      | none => exact congrArg (Slot.mk _) hsame
      | some picture => exact congrArg₂ Slot.mk (Function.update_of_ne hv ..) hsame

/-! ## Setting a place -/

/-- What `sdSetImage` starts from: the load of the place cancelled, its image cleared. -/
def cleared (w : WebCache ι) (view : ι) : WebCache ι :=
  (w.cancelImageLoadOperation view).setImage view none

/-- What it ends with: a new operation, and the entry that names it. -/
def enter (w : WebCache ι) (op : CombinedOperation ι) : WebCache ι :=
  { w with
    operations := Function.update w.operations w.created (some op)
    created := w.created + 1
    operationDictionary := Function.update w.operationDictionary op.view (some w.created) }

theorem cancelImageLoadOperation_cases (h : w.Indexed) (view : ι) :
    w.operationDictionary view = none ∧ w.cancelImageLoadOperation view = w ∨
    ∃ id op, w.operationDictionary view = some id ∧ w.operations id = some op ∧ op.view = view ∧
      w.cancelImageLoadOperation view =
        { w.setOperation id { op with isCancelled := true } with
          operationDictionary := Function.update w.operationDictionary view none } := by
  cases hid : w.operationDictionary view with
  | none => exact Or.inl ⟨rfl, by simp only [cancelImageLoadOperation, hid]⟩
  | some id =>
    obtain ⟨op, hop, hview⟩ := h.entry view id hid
    refine Or.inr ⟨id, op, rfl, hop, hview, ?_⟩
    simp only [cancelImageLoadOperation, hid, cancel, hop]

/-- A cleared place has no entry, and no load in progress; the others are as they were. -/
theorem cleared_spec (h : w.Indexed) (hc : w.Coherent) (view : ι) :
    (w.cleared view).Indexed ∧ (w.cleared view).Coherent ∧
      (w.cleared view).operationDictionary view = none ∧
      ((w.cleared view).created = w.created ∧ (w.cleared view).memoryCache = w.memoryCache ∧
        (w.cleared view).failedURLs = w.failedURLs) ∧
      ∀ v, (w.cleared view).slot v = if v = view then ⟨none, none⟩ else w.slot v := by
  have hslot : ∀ v, (w.cleared view).slot v =
      if v = view then ((w.cancelImageLoadOperation view).slot v).setImage none
      else (w.cancelImageLoadOperation view).slot v := slot_setImage _ view none
  obtain ⟨hnone, heq⟩ | ⟨id, op, hid, hop, hview, heq⟩ := cancelImageLoadOperation_cases h view
  · simp only [cleared, heq] at hslot ⊢
    refine ⟨⟨h.fresh, h.current, h.entry⟩, ⟨hc.memory, hc.disk, hc.writes, hc.answers⟩, hnone,
      ⟨rfl, rfl, rfl⟩, fun v => (hslot v).trans ?_⟩
    split_ifs with hv
    · subst hv
      exact congrArg (Slot.mk none) (loading_of_no_entry hnone)
    · rfl
  · have hdead : ({ op with isCancelled := true } : CombinedOperation ι).live = false := rfl
    have hi := h.setOperation hop { op with isCancelled := true } rfl
      fun hl => nomatch hdead.symm.trans hl
    have hco : (w.setOperation id { op with isCancelled := true }).Coherent :=
      hc.setOperation fun picture hstage => hc.answers id op picture hop hstage
    simp only [cleared, heq] at hslot ⊢
    refine ⟨⟨hi.fresh, fun i o hio hlive => ?_, fun v i hv => ?_⟩,
      ⟨hco.memory, hco.disk, hco.writes, hco.answers⟩, Function.update_self .., ⟨rfl, rfl, rfl⟩,
      fun v => (hslot v).trans ?_⟩
    · have hcurrent := hi.current i o hio hlive
      refine (Function.update_of_ne ?_ ..).trans hcurrent
      -- the entry of the place named the operation just cancelled
      rintro hov
      obtain rfl := Option.some.inj (hid.symm.trans (hov ▸ hcurrent))
      obtain rfl := Option.some.inj ((setOperation_self _).symm.trans hio)
      exact nomatch hdead.symm.trans hlive
    · by_cases hv' : v = view
      · subst hv'
        have hv : Function.update w.operationDictionary v none v = some i := hv
        rw [Function.update_self] at hv
        exact nomatch hv
      · have hv : Function.update w.operationDictionary view none v = some i := hv
        rw [Function.update_of_ne hv'] at hv
        exact hi.entry v i hv
    · split_ifs with hv
      · subst hv
        exact congrArg (Slot.mk none) (loading_of_no_entry (Function.update_self ..))
      · refine congrArg (Slot.mk _) (loading_congr (Function.update_of_ne hv ..) fun i hv' => ?_)
        refine setOperation_of_ne _ ?_
        rintro rfl
        obtain ⟨o, ho, hov⟩ := h.entry v i hv'
        obtain rfl := Option.some.inj (hop.symm.trans ho)
        exact hv (hov.symm.trans hview)

/-- A new operation at a place without one: the place is as it was, but for the load in progress. -/
theorem enter_spec (h : w.Indexed) (hc : w.Coherent)
    (hnone : w.operationDictionary op.view = none)
    (hans : ∀ picture, op.stage = .answering (some picture) → picture = .loaded op.url) :
    (w.enter op).Indexed ∧ (w.enter op).Coherent ∧ ∀ v, (w.enter op).slot v =
      if v = op.view then ⟨w.image v, if op.live then some op.url else none⟩ else w.slot v := by
  have hnew : (w.enter op).operations w.created = some op := Function.update_self ..
  have hold : ∀ i, i ≠ w.created → (w.enter op).operations i = w.operations i := fun i hi =>
    Function.update_of_ne hi ..
  have hentry : (w.enter op).operationDictionary op.view = some w.created :=
    Function.update_self ..
  have hother : ∀ v, v ≠ op.view →
      (w.enter op).operationDictionary v = w.operationDictionary v := fun v hv =>
    Function.update_of_ne hv ..
  have hne : ∀ i o, w.operations i = some o → i ≠ w.created := by
    rintro i o ho rfl
    exact nomatch (h.fresh _ (Nat.le_refl _)).symm.trans ho
  refine ⟨⟨fun i hi => ?_, fun i o ho hlive => ?_, fun v i hv => ?_⟩,
    ⟨hc.memory, hc.disk, hc.writes, fun i o picture ho hstage => ?_⟩, fun v => ?_⟩
  · have hlt : w.created < i := hi
    rw [hold i (Nat.ne_of_gt hlt)]
    exact h.fresh i (Nat.le_of_lt hlt)
  · by_cases hi : i = w.created
    · subst hi
      obtain rfl := Option.some.inj (hnew.symm.trans ho)
      exact hentry
    · rw [hold i hi] at ho
      have hcurrent := h.current i o ho hlive
      refine (hother _ ?_).trans hcurrent
      intro hov
      rw [hov, hnone] at hcurrent
      exact nomatch hcurrent
  · by_cases hov : v = op.view
    · subst hov
      obtain rfl := Option.some.inj (hentry.symm.trans hv)
      exact ⟨op, hnew, rfl⟩
    · obtain ⟨o, ho, hview⟩ := h.entry v i ((hother v hov).symm.trans hv)
      exact ⟨o, (hold i (hne i o ho)).trans ho, hview⟩
  · by_cases hi : i = w.created
    · subst hi
      obtain rfl := Option.some.inj (hnew.symm.trans ho)
      exact hans picture hstage
    · exact hc.answers i o picture ((hold i hi).symm.trans ho) hstage
  · by_cases hv : v = op.view
    · rw [if_pos hv]
      subst hv
      exact congrArg (Slot.mk _) (loading_of_entry hentry hnew)
    · rw [if_neg hv]
      refine congrArg (Slot.mk _) (loading_congr (hother v hv) fun i hi => ?_)
      obtain ⟨o, ho, -⟩ := h.entry v i hi
      exact hold i (hne i o ho)

/-- A place is given a new operation: its image is gone, and only the new load is in progress. -/
theorem enter_cleared_spec (h : w.Indexed) (hc : w.Coherent) (view : ι) (url : URL) (stage : Stage)
    (hstage : ∀ picture, stage ≠ .answering (some picture)) :
    let op : CombinedOperation ι := ⟨view, url, false, stage⟩
    ((w.cleared view).enter op).Indexed ∧ ((w.cleared view).enter op).Coherent ∧
      ∀ v, ((w.cleared view).enter op).slot v =
        if v = view then ⟨none, if op.live then some url else none⟩ else w.slot v := by
  intro op
  obtain ⟨hindexed, hcoherent, hnone, -, hslot⟩ := cleared_spec h hc view
  have hans : ∀ picture, op.stage = .answering (some picture) → picture = .loaded op.url :=
    fun picture heq => absurd heq (hstage picture)
  obtain ⟨hi, hco, henter⟩ := enter_spec hindexed hcoherent hnone hans
  refine ⟨hi, hco, fun v => (henter v).trans ?_⟩
  by_cases hv : v = view
  · have hclear : (w.cleared view).image v = none :=
      congrArg Slot.image ((hslot v).trans (if_pos hv))
    rw [if_pos hv, if_pos hv, hclear]
  · rw [if_neg hv, if_neg hv, hslot v, if_neg hv]

/-- The entry is made after the operation, and there is nothing left to cancel. -/
theorem setImageLoadOperation_of_no_entry (hnone : w.operationDictionary view = none) (id : ℕ) :
    w.setImageLoadOperation id view =
      { w with operationDictionary := Function.update w.operationDictionary view (some id) } := by
  simp only [setImageLoadOperation, cancelImageLoadOperation, hnone]

/-- **What setting a place does**: a `URL` that is not looked for leaves it empty, a picture in the
memory cache is there at once, and otherwise the disk is queried. -/
theorem sdSetImage_eq (h : w.Indexed) (hc : w.Coherent) (view : ι) (url : URL) :
    w.sdSetImage view url =
      if url = [] ∨ url ∈ w.failedURLs then (w.cleared view).enter ⟨view, url, false, .finished⟩
      else match w.memoryCache url with
        | some picture => ((w.cleared view).enter ⟨view, url, false, .finished⟩).setImage view
            (some picture)
        | none => (w.cleared view).enter ⟨view, url, false, .querying⟩ := by
  obtain ⟨-, -, hnone, ⟨hcreated, hmemory, hfailed⟩, -⟩ := cleared_spec h hc view
  have hcond : (url.isEmpty || decide (url ∈ (w.cleared view).failedURLs)) = true ↔
      url = [] ∨ url ∈ w.failedURLs := by
    rw [hfailed, Bool.or_eq_true, List.isEmpty_iff, decide_eq_true_iff]
  change ((w.cleared view).loadImage view url).setImageLoadOperation (w.cleared view).created view
    = _
  rw [loadImage]
  by_cases hskip : url = [] ∨ url ∈ w.failedURLs
  · rw [if_pos (hcond.2 hskip), if_pos hskip]
    exact (setImageLoadOperation_of_no_entry (by exact hnone) _).trans rfl
  · rw [if_neg (mt hcond.1 hskip), if_neg hskip, callCacheProcess, ← hmemory]
    cases (w.cleared view).memoryCache url with
    | none => exact (setImageLoadOperation_of_no_entry (by exact hnone) _).trans rfl
    | some picture => exact (setImageLoadOperation_of_no_entry (by exact hnone) _).trans rfl

/-- The two invariants. -/
structure Sound (w : WebCache ι) : Prop where
  indexed : w.Indexed
  coherent : w.Coherent

omit [DecidableEq ι] in
theorem sound_initial : (initial : WebCache ι).Sound where
  indexed := ⟨fun _ _ => rfl, fun _ _ ho => (nomatch ho), fun _ _ hv => nomatch hv⟩
  coherent := ⟨fun _ _ hm => (nomatch hm), fun _ _ hd => (nomatch hd), fun _ _ hm => (nomatch hm),
    fun _ _ _ ho => nomatch ho⟩

end WebCache

/-! ## One step, seen from one place -/

section Seen

variable {ι : Type*} [DecidableEq ι] {w w' : WebCache ι} {e : Event ι} {v view : ι} {id : ℕ}
  {op : CombinedOperation ι} {url : URL}

/-- What an event asks of a place. -/
def Event.command (v : ι) : Event ι → Option (SlotEvent URL Picture)
  | .sdSetImage view url => if v = view then some (.set url) else none
  | .setImage view image => if v = view then some (.setImage image) else none
  | _ => none

/-- The event is a failure to get the picture of `url`: a download that fails, or a call for a `URL`
that is not looked for. -/
def Event.Fails (w : WebCache ι) (url : URL) : Event ι → Prop
  | .downloaded _ (.failed _) => True
  | .sdSetImage _ url' => url' = url ∧ (url = [] ∨ url ∈ w.failedURLs)
  | _ => False

/-- **What a step looks like from a place**: the command it is for that place, if any, and
completions that bring the picture of their `URL`, or none in case of a failure. -/
structure SeenAs (w : WebCache ι) (e : Event ι) (w' : WebCache ι) (v : ι)
    (es : List (SlotEvent URL Picture)) : Prop where
  commands : es.filter SlotEvent.isCommand = (e.command v).toList
  pictures : ∀ url picture, .complete url (some picture) ∈ es → picture = .loaded url
  failures : ∀ url, .complete url none ∈ es → e.Fails w url
  slot : w'.slot v = es.foldr (fun e s => s.step e) (w.slot v)

/-- Nothing is to be seen. -/
theorem seenAs_nil (hcommand : e.command v = none) (hslot : w'.slot v = w.slot v) :
    SeenAs w e w' v [] :=
  ⟨by rw [hcommand]; rfl, fun _ _ hmem => (nomatch hmem), fun _ hmem => (nomatch hmem), hslot⟩

/-- A completed block runs. -/
theorem exists_seenAs_finish (h : w.Sound) (hop : w.operations id = some op)
    {image : Option Picture} (hcommand : e.command v = none)
    (hquiet : op.live = false → image = none)
    (himage : ∀ picture, image = some picture → picture = .loaded op.url)
    (hfails : op.live = true → image = none → e.Fails w op.url)
    (hslot : w'.slot v = (w.finish id op image).slot v) : ∃ es, SeenAs w e w' v es := by
  rw [WebCache.slot_finish h.indexed hop hquiet] at hslot
  split_ifs at hslot with hlive
  · refine ⟨[.complete op.url image], by rw [hcommand]; rfl, fun url picture hmem => ?_,
      fun url hmem => ?_, hslot⟩
    · obtain ⟨rfl, rfl⟩ := SlotEvent.complete.inj (List.mem_singleton.1 hmem)
      exact himage picture rfl
    · obtain ⟨rfl, rfl⟩ := SlotEvent.complete.inj (List.mem_singleton.1 hmem)
      exact hfails hlive.1 rfl
  · exact ⟨[], seenAs_nil hcommand hslot⟩

/-- A block finds its operation cancelled. -/
theorem step_of_cancelled (h : w.Sound) (hop : w.operations id = some op)
    (hcancelled : op.isCancelled = true) (hcommand : ∀ v, e.command v = none) :
    (w.finish id op none).Sound ∧ ∀ v, ∃ es, SeenAs w e (w.finish id op none) v es := by
  have hlive : op.live = false := by simp [CombinedOperation.live, hcancelled]
  exact ⟨⟨h.indexed.finish hop _, h.coherent.finish ..⟩, fun v => exists_seenAs_finish h hop
    (hcommand v) (fun _ => rfl) (fun _ hp => (nomatch hp)) (fun hl => (nomatch hlive.symm.trans hl))
    rfl⟩

/-- The call from the app: the place is set, and with a picture in the memory or a `URL` that is not
looked for the load has completed when the call returns. -/
theorem step_of_sdSetImage (h : w.Sound) (view : ι) (url : URL) : (w.sdSetImage view url).Sound ∧
    ∀ v, ∃ es, SeenAs w (.sdSetImage view url) (w.sdSetImage view url) v es := by
  have henter := WebCache.enter_cleared_spec h.indexed h.coherent view url
  have hself : (Event.sdSetImage view url).command view = some (.set url) := if_pos rfl
  have hother : ∀ v, v ≠ view → (Event.sdSetImage view url).command v = none := fun v hv =>
    if_neg hv
  rw [WebCache.sdSetImage_eq h.indexed h.coherent]
  split_ifs with hskip
  · obtain ⟨hi, hc, hs⟩ := henter .finished (fun _ => nofun)
    refine ⟨⟨hi, hc⟩, fun v => ?_⟩
    by_cases hv : v = view
    · subst hv
      refine ⟨[.complete url none, .set url], by rw [hself]; rfl, by simp, fun url' hmem => ?_, ?_⟩
      · obtain rfl : url' = url := by simpa using hmem
        exact ⟨rfl, hskip⟩
      · rw [hs, if_pos rfl]
        exact (complete_of_loading (s := (w.slot v).set url) rfl none).symm
    · exact ⟨[], seenAs_nil (hother v hv) ((hs v).trans (if_neg hv))⟩
  · cases hquery : w.memoryCache url with
    | none =>
      obtain ⟨hi, hc, hs⟩ := henter .querying (fun _ => nofun)
      refine ⟨⟨hi, hc⟩, fun v => ?_⟩
      by_cases hv : v = view
      · subst hv
        exact ⟨[.set url], by rw [hself]; rfl, by simp, by simp, (hs v).trans (if_pos rfl)⟩
      · exact ⟨[], seenAs_nil (hother v hv) ((hs v).trans (if_neg hv))⟩
    | some picture =>
      obtain ⟨hi, hc, hs⟩ := henter .finished (fun _ => nofun)
      refine ⟨⟨hi.completed view (some picture), hc.completed view (some picture)⟩, fun v => ?_⟩
      by_cases hv : v = view
      · subst hv
        refine ⟨[.complete url (some picture), .set url], by rw [hself]; rfl, ?_, by simp, ?_⟩
        · intro url' picture' hmem
          obtain ⟨rfl, rfl⟩ : url' = url ∧ picture' = picture := by simpa using hmem
          exact h.coherent.memory _ _ hquery
        · rw [WebCache.slot_setImage, if_pos rfl, hs, if_pos rfl]
          exact (complete_of_loading (s := (w.slot v).set url) rfl (some picture)).symm
      · refine ⟨[], seenAs_nil (hother v hv) ?_⟩
        rw [WebCache.slot_setImage, if_neg hv, hs, if_neg hv]

omit [DecidableEq ι] in
/-- One entry of a cache changes. -/
theorem pictures_update {cache : URL → Option Picture} {entry : Option Picture}
    (h : ∀ url picture, cache url = some picture → picture = .loaded url)
    (hentry : ∀ picture, entry = some picture → picture = .loaded url) :
    ∀ url' picture, Function.update cache url entry url' = some picture →
      picture = .loaded url' := by
  intro url' picture hp
  by_cases hurl : url' = url
  · subst hurl
    rw [Function.update_self] at hp
    exact hentry picture hp
  · rw [Function.update_of_ne hurl] at hp
    exact h url' picture hp

/-- The disk query runs. -/
theorem step_of_diskQueried (h : w.Sound) (hop : w.operations id = some op)
    (hstage : op.stage = .querying) : (w.diskQueried id op).Sound ∧
      ∀ v, ∃ es, SeenAs w (.diskQueried id) (w.diskQueried id op) v es := by
  rw [WebCache.diskQueried]
  by_cases hcancelled : op.isCancelled = true
  · rw [if_pos hcancelled]
    exact step_of_cancelled h hop hcancelled fun _ => rfl
  · rw [if_neg hcancelled]
    have hlive : ∀ found, ({ op with stage := .answering found } : CombinedOperation ι).live
        = op.live := fun found => by simp [CombinedOperation.live, hstage]
    have hindexed := fun found => h.indexed.setOperation hop
      { op with stage := .answering found } rfl ((hlive found).symm.trans ·)
    have hseen : ∀ found v, (w.setOperation id { op with stage := .answering found }).slot v
        = w.slot v := fun found v =>
      congrArg (Slot.mk _) (WebCache.loading_setOperation hop (hlive found) rfl)
    cases hdisk : w.diskCache op.url with
    | none =>
      have hcoherent : (w.setOperation id { op with stage := .answering none }).Coherent :=
        h.coherent.setOperation fun _ heq => nomatch heq
      exact ⟨⟨hindexed none, hcoherent⟩, fun v => ⟨[], seenAs_nil rfl (hseen none v)⟩⟩
    | some picture =>
      have hpicture := h.coherent.disk _ _ hdisk
      have hcoherent :
          (w.setOperation id { op with stage := .answering (some picture) }).Coherent :=
        h.coherent.setOperation fun p heq => by
          obtain rfl := Option.some.inj (Stage.answering.inj heq)
          exact hpicture
      have hi := hindexed (some picture)
      refine ⟨⟨⟨hi.fresh, hi.current, hi.entry⟩,
        ⟨pictures_update hcoherent.memory fun p heq => ?_, hcoherent.disk, hcoherent.writes,
          hcoherent.answers⟩⟩, fun v => ⟨[], seenAs_nil rfl (hseen (some picture) v)⟩⟩
      obtain rfl := Option.some.inj heq
      exact hpicture

/-- The answer of the disk query arrives. -/
theorem step_of_cacheAnswered (h : w.Sound) (hop : w.operations id = some op)
    {diskImage : Option Picture} (hstage : op.stage = .answering diskImage) :
    (w.cacheAnswered id op diskImage).Sound ∧
      ∀ v, ∃ es, SeenAs w (.cacheAnswered id) (w.cacheAnswered id op diskImage) v es := by
  rw [WebCache.cacheAnswered]
  by_cases hcancelled : op.isCancelled = true
  · rw [if_pos hcancelled]
    exact step_of_cancelled h hop hcancelled fun _ => rfl
  · rw [if_neg hcancelled]
    have hop_live : op.live = true := by simp [CombinedOperation.live, hcancelled, hstage]
    cases diskImage with
    | none =>
      have hlive : ({ op with stage := .downloading } : CombinedOperation ι).live = op.live := by
        simp [CombinedOperation.live, hstage]
      have hindexed := h.indexed.setOperation hop { op with stage := .downloading } rfl
        (hlive.symm.trans ·)
      have hcoherent : (w.setOperation id { op with stage := .downloading }).Coherent :=
        h.coherent.setOperation fun _ heq => nomatch heq
      exact ⟨⟨hindexed, hcoherent⟩, fun v => ⟨[], seenAs_nil rfl
        (congrArg (Slot.mk _) (WebCache.loading_setOperation hop hlive rfl))⟩⟩
    | some picture =>
      have hpicture : ∀ p, some picture = some p → p = .loaded op.url := fun p heq => by
        obtain rfl := Option.some.inj heq
        exact h.coherent.answers id op picture hop hstage
      have hquiet : op.live = false → some picture = none := fun hdead =>
        nomatch hdead.symm.trans hop_live
      exact ⟨⟨h.indexed.finish hop _, h.coherent.finish ..⟩, fun v =>
        exists_seenAs_finish h hop rfl hquiet hpicture (fun _ => nofun) rfl⟩

/-- A download ends. -/
theorem step_of_downloaded (h : w.Sound) (hop : w.operations id = some op)
    (hstage : op.stage = .downloading) (result : WebCache.Download) :
    (w.downloaded id op result).Sound ∧
      ∀ v, ∃ es, SeenAs w (.downloaded id result) (w.downloaded id op result) v es := by
  unfold WebCache.downloaded
  by_cases hcancelled : op.isCancelled = true
  · rw [if_pos hcancelled]
    exact step_of_cancelled h hop hcancelled fun _ => rfl
  · rw [if_neg hcancelled]
    have hop_live : op.live = true := by simp [CombinedOperation.live, hcancelled, hstage]
    have hquiet : ∀ image : Option Picture, op.live = false → image = none := fun _ hdead =>
      nomatch hdead.symm.trans hop_live
    cases result with
    | failed shouldBlockFailedURL =>
      have hi := h.indexed.finish hop none
      have hc := h.coherent.finish id op none
      cases shouldBlockFailedURL with
      | false =>
        exact ⟨⟨hi, hc⟩, fun v =>
          exists_seenAs_finish h hop rfl (hquiet none) (fun _ => nofun) (fun _ _ => trivial) rfl⟩
      | true =>
        exact ⟨⟨⟨hi.fresh, hi.current, hi.entry⟩, ⟨hc.memory, hc.disk, hc.writes, hc.answers⟩⟩,
          fun v =>
            exists_seenAs_finish h hop rfl (hquiet none) (fun _ => nofun) (fun _ _ => trivial) rfl⟩
    | succeeded =>
      -- the picture is in the caches before the completed block runs
      generalize hstored : ({ w with
        memoryCache := Function.update w.memoryCache op.url (some (.loaded op.url))
        diskWrites := w.diskWrites ++ [(op.url, Picture.loaded op.url)] } : WebCache ι) = stored
      have hsound : stored.Sound := by
        subst hstored
        refine ⟨⟨h.indexed.fresh, h.indexed.current, h.indexed.entry⟩,
          ⟨pictures_update h.coherent.memory fun p heq => (Option.some.inj heq).symm,
            h.coherent.disk, fun url p hmem => ?_, h.coherent.answers⟩⟩
        rcases List.mem_append.1 hmem with hmem | hmem
        · exact h.coherent.writes url p hmem
        · obtain ⟨rfl, rfl⟩ := Prod.mk.inj (List.mem_singleton.1 hmem)
          rfl
      have hop' : stored.operations id = some op := hstored ▸ hop
      refine ⟨⟨hsound.indexed.finish hop' _, hsound.coherent.finish ..⟩, fun v => ?_⟩
      have hslot : (stored.finish id op (some (.loaded op.url))).slot v =
          (w.finish id op (some (.loaded op.url))).slot v := by
        subst hstored
        rfl
      exact exists_seenAs_finish h hop rfl (hquiet _)
        (fun p heq => (Option.some.inj heq).symm) (fun _ => nofun) hslot

/-- **Every step keeps the invariants, and looks from each place like one of the slot's.** -/
theorem slot_step (h : w.Sound) (hs : Step w e w') :
    w'.Sound ∧ ∀ v, ∃ es, SeenAs w e w' v es := by
  obtain ⟨hi, hc⟩ := h
  cases hs with
  | sdSetImage => exact step_of_sdSetImage ⟨hi, hc⟩ ..
  | @setImage view image =>
    refine ⟨⟨⟨hi.fresh, hi.current, hi.entry⟩, ⟨hc.memory, hc.disk, hc.writes, hc.answers⟩⟩,
      fun v => ?_⟩
    by_cases hv : v = view
    · refine ⟨[.setImage image], by rw [Event.command, if_pos hv]; rfl, by simp, by simp, ?_⟩
      rw [WebCache.slot_setImage, if_pos hv]
      rfl
    · refine ⟨[], seenAs_nil (if_neg hv) ?_⟩
      rw [WebCache.slot_setImage, if_neg hv]
  | diskQueried hop hstage => exact step_of_diskQueried ⟨hi, hc⟩ hop hstage
  | cacheAnswered hop hstage => exact step_of_cacheAnswered ⟨hi, hc⟩ hop hstage
  | downloaded hop hstage => exact step_of_downloaded ⟨hi, hc⟩ hop hstage _
  | @diskWritten url picture writes hwrites =>
    refine ⟨⟨⟨hi.fresh, hi.current, hi.entry⟩, ⟨hc.memory, pictures_update hc.disk fun p heq => ?_,
      fun url' p hmem => hc.writes url' p (hwrites ▸ List.mem_cons_of_mem _ hmem), hc.answers⟩⟩,
      fun v => ⟨[], seenAs_nil rfl rfl⟩⟩
    obtain rfl := Option.some.inj heq
    exact hc.writes url picture (hwrites ▸ List.mem_cons_self)
  | evicted =>
    exact ⟨⟨⟨hi.fresh, hi.current, hi.entry⟩, ⟨pictures_update hc.memory fun _ => nofun,
      hc.disk, hc.writes, hc.answers⟩⟩, fun v => ⟨[], seenAs_nil rfl rfl⟩⟩
  | expired =>
    exact ⟨⟨⟨hi.fresh, hi.current, hi.entry⟩, ⟨hc.memory, pictures_update hc.disk fun _ => nofun,
      hc.writes, hc.answers⟩⟩, fun v => ⟨[], seenAs_nil rfl rfl⟩⟩

end Seen

end InstaGLAM.SDWebImage
