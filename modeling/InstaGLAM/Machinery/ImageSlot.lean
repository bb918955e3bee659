import Mathlib.Data.List.Basic
import Mathlib.Tactic.SplitIfs

/-!
# Machinery/ImageSlot — a view whose image is loaded asynchronously

    set url ──▸ empty, load of url in progress ──completion for url──▸ image

Setting a slot cancels the load in progress and clears the image.  A completion counts only while
its load is the one in progress, so what a slot shows after `set` depends on the completions alone;
a slot that is *not* set again keeps showing what it had, and takes in its old load.
-/

namespace ImageSlot

variable {ω ν : Type*}

/-- A view with an image of type `ν` and at most one load of type `ω` in progress. -/
structure Slot (ω ν : Type*) where
  image : Option ν
  loading : Option ω

/-- `sd_setImage(with:)` without a placeholder: cancel, clear, start the load. -/
def Slot.set (_s : Slot ω ν) (url : ω) : Slot ω ν := ⟨none, some url⟩

/-- Set the image by hand: a load in progress goes on. -/
def Slot.setImage (s : Slot ω ν) (image : Option ν) : Slot ω ν := { s with image }

variable [DecidableEq ω] {s : Slot ω ν}

/-- The load of `url` completes, with an image or with none: ignored if it has been cancelled. -/
def Slot.complete (s : Slot ω ν) (url : ω) (result : Option ν) : Slot ω ν :=
  if s.loading = some url then ⟨result.or s.image, none⟩ else s

theorem complete_of_idle (h : s.loading = none) (url : ω) (result : Option ν) :
    s.complete url result = s := by
  rw [Slot.complete, if_neg]
  simp [h]

theorem complete_of_loading {url : ω} (h : s.loading = some url) (result : Option ν) :
    s.complete url result = ⟨result.or s.image, none⟩ := if_pos h

/-- Completions, the latest first. -/
def Slot.completeAll (s : Slot ω ν) (cs : List (ω × Option ν)) : Slot ω ν :=
  cs.foldr (fun c s => s.complete c.1 c.2) s

theorem completeAll_append (s : Slot ω ν) (later earlier : List (ω × Option ν)) :
    s.completeAll (later ++ earlier) = (s.completeAll earlier).completeAll later :=
  List.foldr_append ..

/-- **An idle slot takes nothing in.** -/
theorem completeAll_of_idle (h : s.loading = none) (cs : List (ω × Option ν)) :
    s.completeAll cs = s := by
  induction cs with
  | nil => rfl
  | cons c cs ih =>
    rw [Slot.completeAll, List.foldr_cons]
    change (s.completeAll cs).complete c.1 c.2 = s
    rw [ih, complete_of_idle h]

/-! ## Histories of one slot -/

/-- What happens to a slot. -/
inductive SlotEvent (ω ν : Type*) where
  | set (url : ω)
  | setImage (image : Option ν)
  | complete (url : ω) (result : Option ν)

/-- What one event does. -/
def Slot.step (s : Slot ω ν) : SlotEvent ω ν → Slot ω ν
  | .set url => s.set url
  | .setImage image => s.setImage image
  | .complete url result => s.complete url result

/-- The slot after a history, the latest event first. -/
def Slot.after (history : List (SlotEvent ω ν)) : Slot ω ν :=
  history.foldr (fun e s => s.step e) ⟨none, none⟩

theorem slot_after_cons (e : SlotEvent ω ν) (history : List (SlotEvent ω ν)) :
    Slot.after (e :: history) = (Slot.after history).step e := rfl

/-- What is done to a slot, as opposed to a load that completes. -/
def SlotEvent.isCommand : SlotEvent ω ν → Bool
  | .set _ | .setImage _ => true
  | .complete _ _ => false

/-- What a slot was last set to, and what it has been given by hand since, the latest first. -/
def lastSet : List (SlotEvent ω ν) → Option ω × List (Option ν)
  | [] => (none, [])
  | .set url :: _ => (some url, [])
  | .setImage image :: history => ((lastSet history).1, image :: (lastSet history).2)
  | .complete _ _ :: history => lastSet history

/-- **What a slot can show**: the picture of the last `url` it was set to, or one it has been given
by hand since; and the only load in progress is that of the last `url`. -/
theorem shown_of_after {picture : ω → ν} {history : List (SlotEvent ω ν)}
    (h : ∀ url v, SlotEvent.complete url (some v) ∈ history → v = picture url) :
    (∀ v, (Slot.after history).image = some v →
      (lastSet history).1.map picture = some v ∨ some v ∈ (lastSet history).2) ∧
    ∀ url, (Slot.after history).loading = some url → (lastSet history).1 = some url := by
  induction history with
  | nil => exact ⟨fun _ hv => (nomatch hv), fun _ hurl => nomatch hurl⟩
  | cons e history ih =>
    obtain ⟨himage, hloading⟩ := ih fun url v hmem => h url v (List.mem_cons_of_mem _ hmem)
    rw [slot_after_cons]
    cases e with
    | set url => exact ⟨fun _ hv => (nomatch hv), fun _ hurl => hurl⟩
    | setImage image => exact ⟨fun v hv => Or.inr (hv ▸ List.mem_cons_self), hloading⟩
    | complete url result =>
      rw [Slot.step, Slot.complete]
      split_ifs with hcurrent
      · refine ⟨fun v hv => ?_, fun _ hurl => nomatch hurl⟩
        cases result with
        | none => exact himage v hv
        | some w =>
          obtain rfl : w = v := Option.some.inj hv
          rw [h url w List.mem_cons_self]
          exact Or.inl (congrArg (Option.map picture) (hloading url hcurrent))
      · exact ⟨himage, hloading⟩

omit [DecidableEq ω] in
/-- What a slot was last set to is a matter of the commands. -/
theorem lastSet_filter (history : List (SlotEvent ω ν)) :
    lastSet (history.filter SlotEvent.isCommand) = lastSet history := by
  induction history with
  | nil => rfl
  | cons e history ih =>
    cases e with
    | set url => rfl
    | setImage image =>
      exact congrArg (fun l : Option ω × List (Option ν) => (l.1, image :: l.2)) ih
    | complete url result => exact ih

/-- **Completions alone leave an idle slot as it is.** -/
theorem foldr_of_idle {es : List (SlotEvent ω ν)} (h : es.filter SlotEvent.isCommand = [])
    (hs : s.loading = none) : es.foldr (fun e s => s.step e) s = s := by
  induction es with
  | nil => rfl
  | cons e es ih =>
    cases e with
    | set url => exact nomatch h
    | setImage image => exact nomatch h
    | complete url result =>
      rw [List.foldr_cons, ih h]
      exact complete_of_idle hs url result

/-- **A load that is not superseded ends with its picture**: if no load of `url` fails, a slot that
was last set to `url` is still loading it, or shows its picture. -/
theorem loads_of_after {picture : ω → ν} {url : ω} {history : List (SlotEvent ω ν)}
    (h : ∀ url v, SlotEvent.complete url (some v) ∈ history → v = picture url)
    (hfails : SlotEvent.complete url none ∉ history)
    (hlast : (history.filter SlotEvent.isCommand).head? = some (.set url)) :
    Slot.after history = ⟨none, some url⟩ ∨ Slot.after history = ⟨some (picture url), none⟩ := by
  induction history with
  | nil => exact nomatch hlast
  | cons e history ih =>
    rw [slot_after_cons]
    cases e with
    | set url' =>
      obtain rfl : url' = url := by simpa [SlotEvent.isCommand] using hlast
      exact Or.inl rfl
    | setImage image => exact nomatch hlast
    | complete url' result =>
      have hrest := ih (fun url v hmem => h url v (List.mem_cons_of_mem _ hmem))
        (fun hmem => hfails (List.mem_cons_of_mem _ hmem)) hlast
      rcases hrest with hloading | hdone
      · by_cases hurl : url = url'
        · subst hurl
          have hcurrent : (Slot.after history).loading = some url := congrArg Slot.loading hloading
          rw [Slot.step, complete_of_loading hcurrent]
          cases result with
          | none => exact absurd List.mem_cons_self hfails
          | some v => exact Or.inr (by rw [h url v List.mem_cons_self]; rfl)
        · have hother : ¬ (Slot.after history).loading = some url' := by
            rw [hloading]
            exact fun heq => hurl (Option.some.inj heq)
          rw [Slot.step, Slot.complete, if_neg hother]
          exact Or.inl hloading
      · rw [Slot.step, complete_of_idle (congrArg Slot.loading hdone)]
        exact Or.inr hdone

/-! ## A slot of one picture -/

/-- The slot shows the picture of `url` or nothing, and loads no other. -/
def Slot.Only (picture : ω → ν) (url : ω) (s : Slot ω ν) : Prop :=
  (∀ v, s.image = some v → v = picture url) ∧ ∀ u, s.loading = some u → u = url

omit [DecidableEq ω] in
theorem only_set (picture : ω → ν) (url : ω) (s : Slot ω ν) : (s.set url).Only picture url :=
  ⟨fun _ hv => (nomatch hv), fun _ hu => (Option.some.inj hu).symm⟩

/-- **Completions bring no other picture**, whichever load they are of. -/
theorem only_complete {picture : ω → ν} {url : ω} (h : s.Only picture url) (u : ω)
    {result : Option ν} (hr : ∀ v, result = some v → v = picture u) :
    (s.complete u result).Only picture url := by
  by_cases hcurrent : s.loading = some u
  · rw [complete_of_loading hcurrent]
    refine ⟨fun v hv => ?_, fun _ hu => nomatch hu⟩
    cases result with
    | none => exact h.1 v hv
    | some w =>
      obtain rfl : w = v := Option.some.inj hv
      rw [hr w rfl, h.2 u hcurrent]
  · rw [Slot.complete, if_neg hcurrent]
    exact h

omit [DecidableEq ω] in
theorem only_clear {picture : ω → ν} {url : ω} (h : s.Only picture url) :
    (s.setImage none).Only picture url := ⟨fun _ hv => (nomatch hv), h.2⟩

/-- The slot has to do with `last` alone; as long as there is none, it is idle and shows the image
it was made with or nothing. -/
def Slot.Last (picture : ω → ν) (made : Option ν) (last : Option ω) (s : Slot ω ν) : Prop :=
  match last with
  | none => s.loading = none ∧ ∀ v, s.image = some v → made = some v
  | some url => s.Only picture url

variable {picture : ω → ν} {made : Option ν} {last : Option ω}

omit [DecidableEq ω] in
theorem last_clear (h : s.Last picture made last) : (s.setImage none).Last picture made last := by
  cases last with
  | none => exact ⟨h.1, fun _ hv => nomatch hv⟩
  | some url => exact only_clear h

/-- **Completions leave a slot with its last load.** -/
theorem last_complete (h : s.Last picture made last) (u : ω) {result : Option ν}
    (hr : ∀ v, result = some v → v = picture u) :
    (s.complete u result).Last picture made last := by
  cases last with
  | none =>
    rw [complete_of_idle h.1]
    exact h
  | some url => exact only_complete h u hr

end ImageSlot
