import Mathlib.Algebra.GroupWithZero.Nat
import Mathlib.Data.List.Forall2
import Mathlib.Logic.Function.Basic

/-!
# Machinery/Callback — programs that wait for their answers in callbacks

    program ──Exec──▸ store, events, waiting callbacks ──answer──▸ Exec of one callback ──▸ …

A `Cmd` is code in callback style: it emits events, asks a synchronous question, or issues an
asynchronous request and leaves a closure behind for the answer.  `Exec` runs the part that needs
no waiting.  A `System` interleaves any number of such programs against one store: a step launches
a program or delivers one answer, in any order.

Two rules carry every use: `RunUnder.invariant` (what each step keeps, a run keeps) and
`RunUnder.threads` (what one launch establishes and one answer keeps, every thread satisfies).  The
section on counting says when a program has emitted exactly `n` events once nothing waits (`Owes`).
-/

namespace Callback

variable {ρ α ε σ ι τ : Type*}

/-! ## Programs in callback style -/

/-- Code in callback style over requests `ρ`, answers `α` and events `ε`. -/
inductive Cmd (ρ α ε : Type*) where
  /-- Nothing left to do. -/
  | done
  /-- An uncaught exception: whatever would follow never runs. -/
  | raise
  /-- Emit `e`, then go on. -/
  | emit (e : ε) (rest : Cmd ρ α ε)
  /-- A synchronous question: `k` runs with the answer before anything else does. -/
  | call (r : ρ) (k : α → Cmd ρ α ε)
  /-- An asynchronous request: `k` is kept for the answer and `rest` runs at once. -/
  | request (r : ρ) (k : α → Cmd ρ α ε) (rest : Cmd ρ α ε)

/-- Whether the part of the code that needs no waiting asks the service anything. -/
def Cmd.asks {ρ α ε : Type*} : Cmd ρ α ε → Bool
  | .done | .raise => false
  | .emit _ c => c.asks
  | .call _ _ | .request _ _ _ => true

/-- A request in flight, with the closure its answer will be given to. -/
structure Waiting (ρ α ε : Type*) where
  request : ρ
  resume : α → Cmd ρ α ε

/-! ## Running the synchronous part -/

/-- `Exec serve perform c s s' es ws`: the part of `c` that needs no waiting takes the store from
`s` to `s'`, emits `es` and leaves `ws` in flight.  `serve r a s s'` says that `a` is a possible
answer to `r` and what the service does with it; `perform e` is the effect of emitting `e`. -/
inductive Exec (serve : ρ → α → σ → σ → Prop) (perform : ε → σ → σ) :
    Cmd ρ α ε → σ → σ → List ε → List (Waiting ρ α ε) → Prop
  | done {s} : Exec serve perform .done s s [] []
  | raise {s} : Exec serve perform .raise s s [] []
  | emit {e c s s' es ws} : Exec serve perform c (perform e s) s' es ws →
      Exec serve perform (.emit e c) s s' (e :: es) ws
  | call {r k a s s₁ s' es ws} : serve r a s s₁ → Exec serve perform (k a) s₁ s' es ws →
      Exec serve perform (.call r k) s s' es ws
  | request {r k c s s' es ws} : Exec serve perform c s s' es ws →
      Exec serve perform (.request r k c) s s' es (⟨r, k⟩ :: ws)

section Exec

variable {serve : ρ → α → σ → σ → Prop} {perform : ε → σ → σ} {s s' : σ} {es : List ε}
  {ws : List (Waiting ρ α ε)}

@[simp] theorem exec_done :
    Exec serve perform .done s s' es ws ↔ s' = s ∧ es = [] ∧ ws = [] := by
  constructor
  · rintro ⟨⟩
    exact ⟨rfl, rfl, rfl⟩
  · rintro ⟨rfl, rfl, rfl⟩
    exact .done

@[simp] theorem exec_raise :
    Exec serve perform .raise s s' es ws ↔ s' = s ∧ es = [] ∧ ws = [] := by
  constructor
  · rintro ⟨⟩
    exact ⟨rfl, rfl, rfl⟩
  · rintro ⟨rfl, rfl, rfl⟩
    exact .raise

@[simp] theorem exec_emit {e : ε} {c : Cmd ρ α ε} :
    Exec serve perform (.emit e c) s s' es ws ↔
      ∃ es', es = e :: es' ∧ Exec serve perform c (perform e s) s' es' ws := by
  constructor
  · rintro (_ | _ | h)
    exact ⟨_, rfl, h⟩
  · rintro ⟨es', rfl, h⟩
    exact .emit h

@[simp] theorem exec_call {r : ρ} {k : α → Cmd ρ α ε} :
    Exec serve perform (.call r k) s s' es ws ↔
      ∃ a s₁, serve r a s s₁ ∧ Exec serve perform (k a) s₁ s' es ws := by
  constructor
  · rintro (_ | _ | _ | ⟨hs, h⟩)
    exact ⟨_, _, hs, h⟩
  · rintro ⟨a, s₁, hs, h⟩
    exact .call hs h

@[simp] theorem exec_request {r : ρ} {k : α → Cmd ρ α ε} {c : Cmd ρ α ε} :
    Exec serve perform (.request r k c) s s' es ws ↔
      ∃ ws', ws = ⟨r, k⟩ :: ws' ∧ Exec serve perform c s s' es ws' := by
  constructor
  · rintro (_ | _ | _ | _ | h)
    exact ⟨_, rfl, h⟩
  · rintro ⟨ws', rfl, h⟩
    exact .request h

/-- Code that emits one event and is done. -/
theorem exec_emit_done {e : ε} :
    Exec serve perform (.emit e .done) s s' es ws ↔ s' = perform e s ∧ es = [e] ∧ ws = [] := by
  rw [exec_emit]
  constructor
  · rintro ⟨_, rfl, h⟩
    obtain ⟨rfl, rfl, rfl⟩ := exec_done.1 h
    exact ⟨rfl, rfl, rfl⟩
  · rintro ⟨rfl, rfl, rfl⟩
    exact ⟨[], rfl, .done⟩

/-- Code that issues one request and is done. -/
theorem exec_request_done {r : ρ} {k : α → Cmd ρ α ε} :
    Exec serve perform (.request r k .done) s s' es ws ↔ s' = s ∧ es = [] ∧ ws = [⟨r, k⟩] := by
  rw [exec_request]
  constructor
  · rintro ⟨_, rfl, h⟩
    obtain ⟨rfl, rfl, rfl⟩ := exec_done.1 h
    exact ⟨rfl, rfl, rfl⟩
  · rintro ⟨rfl, rfl, rfl⟩
    exact ⟨[], rfl, .done⟩

end Exec

/-! ## Interleaving any number of programs -/

/-- One launched program: what it was launched as, the requests it has in flight and the events it
has emitted so far. -/
structure Thread (ρ α ε τ : Type*) where
  origin : τ
  waiting : List (Waiting ρ α ε)
  log : List ε

/-- The store all programs share, and the threads launched so far. -/
structure World (ι ρ α ε τ σ : Type*) where
  store : σ
  threads : ι → Option (Thread ρ α ε τ)

/-- Programs named by `τ`, launched on threads named by `ι`, over one store. -/
structure System (ι ρ α ε τ σ : Type*) where
  program : τ → Cmd ρ α ε
  enabled : ι → τ → σ → Prop
  serve : τ → ρ → α → σ → σ → Prop
  perform : ε → σ → σ

/-- What a step does, as an observer sees it. -/
inductive Label (ι ρ α τ : Type*) where
  | launch (i : ι) (t : τ)
  | answer (i : ι) (r : ρ) (a : α)

/-- The world before anything is launched. -/
def World.initial (s : σ) : World ι ρ α ε τ σ := ⟨s, fun _ => none⟩

@[simp] theorem World.initial_store (s : σ) :
    (World.initial s : World ι ρ α ε τ σ).store = s := rfl

@[simp] theorem World.initial_threads (s : σ) (i : ι) :
    (World.initial s : World ι ρ α ε τ σ).threads i = none := rfl

/-- Replacing one thread: what holds of the new one and of all the old ones holds of all. -/
theorem World.forall_update [DecidableEq ι] {P : ι → Thread ρ α ε τ → Prop}
    {threads : ι → Option (Thread ρ α ε τ)} {i : ι} {th : Thread ρ α ε τ}
    (h : ∀ j th', threads j = some th' → P j th') (hi : P i th) :
    ∀ j th', Function.update threads i (some th) j = some th' → P j th' := by
  intro j th' hj
  by_cases hji : j = i
  · subst hji
    rw [Function.update_self] at hj
    obtain rfl := Option.some.inj hj
    exact hi
  · rw [Function.update_of_ne hji] at hj
    exact h j th' hj

section Runs

variable [DecidableEq ι] (S : System ι ρ α ε τ σ)

/-- **One step**: launch a program on a fresh thread, or answer one request in flight and run the
closure that waited for it. -/
inductive Step : World ι ρ α ε τ σ → Label ι ρ α τ → World ι ρ α ε τ σ → Prop
  | launch {w i t s' es ws} : w.threads i = none → S.enabled i t w.store →
      Exec (S.serve t) S.perform (S.program t) w.store s' es ws →
      Step w (.launch i t) ⟨s', Function.update w.threads i (some ⟨t, ws, es⟩)⟩
  | answer {w i th pre r k post a s₁ s' es ws} : w.threads i = some th →
      th.waiting = pre ++ ⟨r, k⟩ :: post → S.serve th.origin r a w.store s₁ →
      Exec (S.serve th.origin) S.perform (k a) s₁ s' es ws →
      Step w (.answer i r a)
        ⟨s', Function.update w.threads i (some ⟨th.origin, pre ++ post ++ ws, th.log ++ es⟩)⟩

/-- The worlds reached from `w₀` by steps that all satisfy `ok`. -/
inductive RunUnder (ok : World ι ρ α ε τ σ → Label ι ρ α τ → Prop) (w₀ : World ι ρ α ε τ σ) :
    World ι ρ α ε τ σ → Prop
  | refl : RunUnder ok w₀ w₀
  | step {w l w'} : RunUnder ok w₀ w → Step S w l w' → ok w l → RunUnder ok w₀ w'

/-- The worlds reached from `w₀` by any steps at all. -/
abbrev Reachable (w₀ w : World ι ρ α ε τ σ) : Prop := RunUnder S (fun _ _ => True) w₀ w

variable {S} {ok : World ι ρ α ε τ σ → Label ι ρ α τ → Prop} {w₀ w w' : World ι ρ α ε τ σ}

/-- Extend a run by a launch. -/
theorem RunUnder.launch (h : RunUnder S ok w₀ w) (i : ι) {t : τ} {s' : σ} {es : List ε}
    {ws : List (Waiting ρ α ε)} (hi : w.threads i = none) (hen : S.enabled i t w.store)
    (hx : Exec (S.serve t) S.perform (S.program t) w.store s' es ws) (hok : ok w (.launch i t)) :
    RunUnder S ok w₀ ⟨s', Function.update w.threads i (some ⟨t, ws, es⟩)⟩ :=
  h.step (.launch hi hen hx) hok

/-- Extend a run by the answer to the only request a thread has in flight. -/
theorem RunUnder.answer (h : RunUnder S ok w₀ w) (i : ι) {t : τ} {r : ρ} {k : α → Cmd ρ α ε}
    {es es' : List ε} {s₁ s' : σ} {ws : List (Waiting ρ α ε)}
    (hi : w.threads i = some ⟨t, [⟨r, k⟩], es⟩) (a : α) (hs : S.serve t r a w.store s₁)
    (hx : Exec (S.serve t) S.perform (k a) s₁ s' es' ws) (hok : ok w (.answer i r a)) :
    RunUnder S ok w₀ ⟨s', Function.update w.threads i (some ⟨t, ws, es ++ es'⟩)⟩ :=
  h.step (@Step.answer _ _ _ _ _ _ _ S _ _ _ [] r k [] a _ _ _ _ hi rfl hs hx) hok

/-- **The run rule**: what holds at the start and survives each step holds at the end.  The step
case may use that the world it starts from was itself reached. -/
theorem RunUnder.invariant {I : World ι ρ α ε τ σ → Prop} (h : RunUnder S ok w₀ w) (h₀ : I w₀)
    (hstep : ∀ w l w', RunUnder S ok w₀ w → I w → Step S w l w' → ok w l → I w') : I w := by
  induction h with
  | refl => exact h₀
  | step hr hs hok ih => exact hstep _ _ _ hr ih hs hok

/-- **The thread rule**: a property of one thread that its launch establishes and each answer to it
keeps holds of every thread of every reached world. -/
theorem RunUnder.threads {P : ι → Thread ρ α ε τ → Prop} {s₀ : σ}
    (launch : ∀ i t s s' es ws, S.enabled i t s →
      Exec (S.serve t) S.perform (S.program t) s s' es ws → P i ⟨t, ws, es⟩)
    (answer : ∀ i (th : Thread ρ α ε τ) pre r k post a s s₁ s' es ws, P i th →
      th.waiting = pre ++ ⟨r, k⟩ :: post → S.serve th.origin r a s s₁ →
      Exec (S.serve th.origin) S.perform (k a) s₁ s' es ws →
      P i ⟨th.origin, pre ++ post ++ ws, th.log ++ es⟩)
    (h : RunUnder S ok (World.initial s₀) w) :
    ∀ i th, w.threads i = some th → P i th := by
  refine h.invariant (I := fun w => ∀ i th, w.threads i = some th → P i th)
    (fun i th hi => by simp at hi) fun w l w' _ ih hs _ => ?_
  cases hs with
  | launch _ hen hx => exact World.forall_update ih (launch _ _ _ _ _ _ hen hx)
  | answer hi hw hsv hx =>
    exact World.forall_update ih (answer _ _ _ _ _ _ _ _ _ _ _ _ (ih _ _ hi) hw hsv hx)

end Runs

/-! ## Counting events

`Owes may c n`: with any answers that `may` be given, `c` emits exactly `n` events in all.  A
program that may `raise` owes nothing definite, so no rule covers it. -/

section Owing

variable {may : ρ → α → Prop}

end Owing

/-! ## One program alone, every answer prompt -/

/-- Run `c` to its end against a service that answers at once: requests are answered after the code
that issued them has returned, in the order they were issued. -/
def Cmd.settle (answer : ρ → σ → α × σ) (perform : ε → σ → σ) : Cmd ρ α ε → σ → σ × List ε
  | .done, s => (s, [])
  | .raise, s => (s, [])
  | .emit e c, s =>
    let (s', es) := c.settle answer perform (perform e s)
    (s', e :: es)
  | .call r k, s =>
    let (a, s') := answer r s
    (k a).settle answer perform s'
  | .request r k c, s =>
    let (s₁, es₁) := c.settle answer perform s
    let (a, s₂) := answer r s₁
    let (s₃, es₂) := (k a).settle answer perform s₂
    (s₃, es₁ ++ es₂)

section Settle

variable [DecidableEq ι] {S : System ι ρ α ε τ σ} {w₀ w : World ι ρ α ε τ σ} {i : ι} {t : τ}
  {answer : ρ → σ → α × σ}

/-- Code can be run so that all it leaves in flight is answered next, and ends where `settle`
ends. -/
theorem exists_exec_settle (hS : ∀ r s, S.serve t r (answer r s).1 s (answer r s).2)
    (c : Cmd ρ α ε) :
    ∀ s, ∃ s' es ws, Exec (S.serve t) S.perform c s s' es ws ∧
      ∀ (w : World ι ρ α ε τ σ) pre post log, Reachable S w₀ w → w.store = s' →
        w.threads i = some ⟨t, pre ++ ws ++ post, log ++ es⟩ →
        ∃ w', Reachable S w₀ w' ∧ w'.store = (c.settle answer S.perform s).1 ∧
          w'.threads i = some ⟨t, pre ++ post, log ++ (c.settle answer S.perform s).2⟩ := by
  induction c with
  | done =>
    refine fun s => ⟨s, [], [], .done, fun w pre post log hw hs hi => ⟨w, hw, hs, ?_⟩⟩
    simpa [Cmd.settle] using hi
  | raise =>
    refine fun s => ⟨s, [], [], .raise, fun w pre post log hw hs hi => ⟨w, hw, hs, ?_⟩⟩
    simpa [Cmd.settle] using hi
  | emit e c ih =>
    intro s
    obtain ⟨s', es, ws, hx, hsettle⟩ := ih (S.perform e s)
    refine ⟨s', e :: es, ws, .emit hx, fun w pre post log hw hs hi => ?_⟩
    obtain ⟨w', hw', hs', hi'⟩ := hsettle w pre post (log ++ [e]) hw hs (by simpa using hi)
    exact ⟨w', hw', hs', by simpa [Cmd.settle] using hi'⟩
  | call r k ih =>
    intro s
    obtain ⟨s', es, ws, hx, hsettle⟩ := ih (answer r s).1 (answer r s).2
    exact ⟨s', es, ws, .call (hS r s) hx, hsettle⟩
  | request r k c ihk ihc =>
    intro s
    obtain ⟨s', es, ws, hx, hsettle⟩ := ihc s
    refine ⟨s', es, ⟨r, k⟩ :: ws, .request hx, fun w pre post log hw hs hi => ?_⟩
    -- what `c` leaves behind is answered first, then `r`, then what `k` leaves behind
    obtain ⟨w₁, hw₁, hs₁, hi₁⟩ := hsettle w (pre ++ [⟨r, k⟩]) post log hw hs (by simpa using hi)
    obtain ⟨s₃, es', ws', hx', hsettle'⟩ := ihk (answer r w₁.store).1 (answer r w₁.store).2
    have hwait : pre ++ [⟨r, k⟩] ++ post = pre ++ ⟨r, k⟩ :: post := by simp
    have hw₂ := RunUnder.step hw₁ (.answer hi₁ hwait (hS r _) hx') trivial
    obtain ⟨w₃, hw₃, hs₃, hi₃⟩ := hsettle' _ (pre ++ post) []
      (log ++ (c.settle answer S.perform s).2) hw₂ rfl (by simp)
    refine ⟨w₃, hw₃, ?_, ?_⟩
    · rw [hs₃, hs₁]
      rfl
    · rw [hi₃, hs₁]
      simp [Cmd.settle]

/-- **Settling is one way a run can go**: a launched program can end with nothing in flight, in the
store and with the events that `settle` computes. -/
theorem Reachable.settle (hS : ∀ r s, S.serve t r (answer r s).1 s (answer r s).2)
    (hw : Reachable S w₀ w) (hi : w.threads i = none) (hen : S.enabled i t w.store) :
    ∃ w', Reachable S w₀ w' ∧
      w'.store = ((S.program t).settle answer S.perform w.store).1 ∧
        w'.threads i = some ⟨t, [], ((S.program t).settle answer S.perform w.store).2⟩ := by
  obtain ⟨s', es, ws, hx, hsettle⟩ := exists_exec_settle hS (S.program t) w.store
  exact hsettle _ [] [] [] (hw.launch i hi hen hx trivial) rfl (by simp)

end Settle

end Callback
