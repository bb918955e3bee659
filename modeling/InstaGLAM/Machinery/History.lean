import InstaGLAM.Machinery.Callback

/-!
# Machinery/History — a run as the history of its service

    interleaved programs ──▸ one history of answered requests ──▸ the store, and each thread

The service answers one request at a time, so a run has a history: the requests in the order they
were answered.  For programs that wait for one answer before they ask again, `RunUnder.history`
reads everything off it: the store is what the service made of the history, and each thread is where
its program gets with the thread's own part of it.
-/

namespace Callback

variable {ρ α ε σ ι τ : Type*}

/-! ## Programs against their own answers -/

/-- Every request is the last thing the code does before it waits. -/
def Cmd.Sequential : Cmd ρ α ε → Prop
  | .done | .raise => True
  | .emit _ c => c.Sequential
  | .call _ k => ∀ a, (k a).Sequential
  | .request _ k c => c = .done ∧ ∀ a, (k a).Sequential

/-- `Replays c past es ws`: asked and answered as in `past`, the first first, `c` has emitted `es`
and waits for `ws`. -/
inductive Replays : Cmd ρ α ε → List (ρ × α) → List ε → List (Waiting ρ α ε) → Prop
  | done : Replays .done [] [] []
  | raise : Replays .raise [] [] []
  | emit {e c past es ws} : Replays c past es ws → Replays (.emit e c) past (e :: es) ws
  | call {r k a past es ws} : Replays (k a) past es ws → Replays (.call r k) ((r, a) :: past) es ws
  | waits {r k} : Replays (.request r k .done) [] [] [⟨r, k⟩]
  | answered {r k a past es ws} : Replays (k a) past es ws →
      Replays (.request r k .done) ((r, a) :: past) es ws

section Replays

variable {c : Cmd ρ α ε} {past past' : List (ρ × α)} {es es' : List ε}
  {ws ws' : List (Waiting ρ α ε)} {r : ρ} {a : α} {k : α → Cmd ρ α ε}

@[simp] theorem replays_done :
    Replays (.done : Cmd ρ α ε) past es ws ↔ past = [] ∧ es = [] ∧ ws = [] := by
  constructor
  · rintro ⟨⟩
    exact ⟨rfl, rfl, rfl⟩
  · rintro ⟨rfl, rfl, rfl⟩
    exact .done

@[simp] theorem replays_raise :
    Replays (.raise : Cmd ρ α ε) past es ws ↔ past = [] ∧ es = [] ∧ ws = [] := by
  constructor
  · rintro ⟨⟩
    exact ⟨rfl, rfl, rfl⟩
  · rintro ⟨rfl, rfl, rfl⟩
    exact .raise

/-- Code that emits one event and is done. -/
theorem replays_emit_done {e : ε} :
    Replays (.emit e .done) past es ws ↔ past = [] ∧ es = [e] ∧ ws = [] := by
  constructor
  · rintro (_ | _ | h)
    obtain ⟨rfl, rfl, rfl⟩ := replays_done.1 h
    exact ⟨rfl, rfl, rfl⟩
  · rintro ⟨rfl, rfl, rfl⟩
    exact .emit .done

theorem replays_call : Replays (.call r k) past es ws ↔
    ∃ a past', past = (r, a) :: past' ∧ Replays (k a) past' es ws := by
  constructor
  · rintro (_ | _ | _ | h)
    exact ⟨_, _, rfl, h⟩
  · rintro ⟨a, past', rfl, h⟩
    exact .call h

theorem replays_request : Replays (.request r k .done) past es ws ↔
    past = [] ∧ es = [] ∧ ws = [⟨r, k⟩] ∨
      ∃ a past', past = (r, a) :: past' ∧ Replays (k a) past' es ws := by
  constructor
  · rintro (_ | _ | _ | _ | _ | h)
    · exact Or.inl ⟨rfl, rfl, rfl⟩
    · exact Or.inr ⟨_, _, rfl, h⟩
  · rintro (⟨rfl, rfl, rfl⟩ | ⟨a, past', rfl, h⟩)
    · exact .waits
    · exact .answered h

/-- **One more answer**: the program goes on where it waited. -/
theorem Replays.answer (h : Replays c past es ws) {pre post : List (Waiting ρ α ε)}
    (hws : ws = pre ++ ⟨r, k⟩ :: post) (hk : Replays (k a) past' es' ws') :
    Replays c (past ++ (r, a) :: past') (es ++ es') (pre ++ post ++ ws') := by
  induction h with
  | done => simp at hws
  | raise => simp at hws
  | emit _ ih => exact .emit (ih hws)
  | call _ ih => exact .call (ih hws)
  | answered _ ih => exact .answered (ih hws)
  | waits =>
    cases pre with
    | nil =>
      obtain ⟨hw, rfl⟩ := List.cons.inj hws
      obtain ⟨rfl, rfl⟩ := Waiting.mk.inj hw
      exact .answered hk
    | cons w pre => simp at hws

/-- What waits after a replay of sequential code goes on sequentially. -/
theorem Replays.sequential (h : Replays c past es ws) (hc : c.Sequential) :
    ∀ w ∈ ws, ∀ a, (w.resume a).Sequential := by
  induction h with
  | done => simp
  | raise => simp
  | emit _ ih => exact ih hc
  | call _ ih => exact ih (hc _)
  | waits =>
    intro w hw
    obtain rfl := List.mem_singleton.1 hw
    exact hc.2
  | answered _ ih => exact ih (hc.2 _)

end Replays

/-! ## Histories -/

/-- A request that has been answered: whose it was, what it was, and the answer. -/
structure Served (ι ρ α : Type*) where
  thread : ι
  request : ρ
  answer : α

/-- `Serves serve s₀ history s`: the service has come from `s₀` to `s` by answering `history`, the
latest first. -/
inductive Serves (serve : ι → ρ → α → σ → σ → Prop) (s₀ : σ) : List (Served ι ρ α) → σ → Prop
  | nil : Serves serve s₀ [] s₀
  | cons {history s x s'} : Serves serve s₀ history s → serve x.thread x.request x.answer s s' →
      Serves serve s₀ (x :: history) s'

/-- Running the synchronous part is a replay, and the service answers what it asks. -/
theorem Exec.replays (serve : ι → ρ → α → σ → σ → Prop) (i : ι) {perform : ε → σ → σ}
    (hperform : ∀ e s, perform e s = s) {c : Cmd ρ α ε} {s₀ s s' : σ} {es : List ε}
    {ws : List (Waiting ρ α ε)} (h : Exec (serve i) perform c s s' es ws) (hc : c.Sequential)
    {history : List (Served ι ρ α)} (hs : Serves serve s₀ history s) :
    ∃ later, (∀ x ∈ later, x.thread = i) ∧ Serves serve s₀ (later ++ history) s' ∧
      Replays c (later.map fun x => (x.request, x.answer)).reverse es ws := by
  induction h generalizing history with
  | done => exact ⟨[], by simp, hs, .done⟩
  | raise => exact ⟨[], by simp, hs, .raise⟩
  | emit _ ih =>
    rw [hperform] at ih
    obtain ⟨later, hthread, hserves, hreplays⟩ := ih hc hs
    exact ⟨later, hthread, hserves, .emit hreplays⟩
  | @call r k a s s₁ s' es ws hserve _ ih =>
    obtain ⟨later, hthread, hserves, hreplays⟩ := ih (hc a)
      (hs.cons (x := ⟨i, r, a⟩) hserve)
    refine ⟨later ++ [⟨i, r, a⟩], fun x hmem => ?_, by simpa using hserves, ?_⟩
    · rcases List.mem_append.1 hmem with hmem | hmem
      · exact hthread x hmem
      · rw [List.mem_singleton.1 hmem]
    · simpa using Replays.call hreplays
  | request h ih =>
    obtain ⟨rfl, -⟩ := hc
    obtain ⟨rfl, rfl, rfl⟩ := exec_done.1 h
    exact ⟨[], by simp, hs, .waits⟩

section Own

variable [DecidableEq ι]

/-- What has been answered to one thread, the first first. -/
def own (i : ι) : List (Served ι ρ α) → List (ρ × α)
  | [] => []
  | x :: history =>
    if x.thread = i then own i history ++ [(x.request, x.answer)] else own i history

theorem mem_own {i : ι} {r : ρ} {a : α} {history : List (Served ι ρ α)} :
    (r, a) ∈ own i history ↔ ⟨i, r, a⟩ ∈ history := by
  induction history with
  | nil => simp [own]
  | cons x history ih =>
    obtain ⟨j, r', a'⟩ := x
    by_cases hj : j = i
    · subst hj
      simp [own, ih, or_comm]
    · simp [own, ih, hj, Ne.symm hj]

/-- A history that goes on with answers to one thread. -/
theorem own_of_forall {i : ι} {later : List (Served ι ρ α)} (history : List (Served ι ρ α))
    (h : ∀ x ∈ later, x.thread = i) (j : ι) : own j (later ++ history) =
      if j = i then own i history ++ (later.map fun x => (x.request, x.answer)).reverse
      else own j history := by
  induction later with
  | nil => by_cases hj : j = i <;> simp [hj]
  | cons x later ih =>
    have hx := h x List.mem_cons_self
    rw [List.cons_append, own, ih fun x hmem => h x (List.mem_cons_of_mem _ hmem), hx]
    by_cases hj : j = i
    · simp [hj]
    · simp [hj, Ne.symm hj]

end Own

/-! ## The history of a run -/

variable [DecidableEq ι] {S : System ι ρ α ε τ σ} {calls : ι → τ} {s₀ : σ}
  {w : World ι ρ α ε τ σ}

/-- The history explains the world: the service has made the store of it, and each launched program
is where it gets with the thread's own part. -/
structure Explains (S : System ι ρ α ε τ σ) (calls : ι → τ) (s₀ : σ)
    (history : List (Served ι ρ α)) (w : World ι ρ α ε τ σ) : Prop where
  serves : Serves (fun i => S.serve (calls i)) s₀ history w.store
  idle : ∀ i, w.threads i = none → own i history = []
  origin : ∀ i th, w.threads i = some th → th.origin = calls i
  replays : ∀ i th, w.threads i = some th →
    Replays (S.program (calls i)) (own i history) th.log th.waiting

/-- One thread goes on with its own answers, and the other threads have got none. -/
theorem Explains.update {history history' : List (Served ι ρ α)} (h : Explains S calls s₀ history w)
    {i : ι} {th : Thread ρ α ε τ} {s' : σ}
    (hserves : Serves (fun i => S.serve (calls i)) s₀ history' s')
    (hothers : ∀ j, j ≠ i → own j history' = own j history) (horigin : th.origin = calls i)
    (hreplays : Replays (S.program (calls i)) (own i history') th.log th.waiting) :
    Explains S calls s₀ history' ⟨s', Function.update w.threads i (some th)⟩ := by
  have hself : Function.update w.threads i (some th) i = some th := Function.update_self ..
  have hother : ∀ j, j ≠ i → Function.update w.threads i (some th) j = w.threads j := fun j hj =>
    Function.update_of_ne hj ..
  refine ⟨hserves, fun j hj => ?_, World.forall_update h.origin horigin, fun j th' hj => ?_⟩
  · by_cases hji : j = i
    · subst hji
      exact nomatch hself.symm.trans hj
    · rw [hothers j hji]
      exact h.idle j ((hother j hji).symm.trans hj)
  · by_cases hji : j = i
    · subst hji
      obtain rfl := Option.some.inj (hself.symm.trans hj)
      exact hreplays
    · rw [hothers j hji]
      exact h.replays j th' ((hother j hji).symm.trans hj)

/-- **Every run has a history that explains it.** -/
theorem RunUnder.history (hcalls : ∀ i t s, S.enabled i t s → t = calls i)
    (hperform : ∀ e s, S.perform e s = s) (hseq : ∀ i, (S.program (calls i)).Sequential)
    {ok : World ι ρ α ε τ σ → Label ι ρ α τ → Prop} (h : RunUnder S ok (World.initial s₀) w) :
    ∃ history, Explains S calls s₀ history w := by
  refine h.invariant (I := fun w => ∃ history, Explains S calls s₀ history w)
    ⟨[], .nil, fun i _ => rfl, fun i th hi => by simp at hi, fun i th hi => by simp at hi⟩ ?_
  rintro w l w' - ⟨history, hw⟩ hs -
  cases hs with
  | @launch i t s' es ws hi hen hx =>
    obtain rfl := hcalls _ _ _ hen
    obtain ⟨later, hthread, hserves, hnew⟩ :=
      Exec.replays (fun i => S.serve (calls i)) i hperform hx
      (hseq i) hw.serves
    have hown := own_of_forall history hthread
    refine ⟨_, hw.update hserves (fun j hj => by rw [hown, if_neg hj]) rfl ?_⟩
    rw [hown, if_pos rfl, hw.idle i hi]
    exact hnew
  | @answer i th pre r k post a s₁ s' es ws hi hwait hserve hx =>
    have hth := hw.origin i th hi
    have hold := hw.replays i th hi
    rw [hth] at hserve hx
    have hk : (k a).Sequential := hold.sequential (hseq i) ⟨r, k⟩ (by simp [hwait]) a
    obtain ⟨later, hthread, hserves, hnew⟩ :=
      Exec.replays (fun i => S.serve (calls i)) i hperform hx
      hk (hw.serves.cons (x := ⟨i, r, a⟩) hserve)
    have hown := own_of_forall (⟨i, r, a⟩ :: history) hthread
    refine ⟨_, hw.update hserves (fun j hj => ?_) hth ?_⟩
    · rw [hown, if_neg hj, own, if_neg (Ne.symm hj)]
    · rw [hown, if_pos rfl, own, if_pos rfl, List.append_assoc]
      exact hold.answer hwait hnew

end Callback
