import InstaGLAM.FirebaseManager.Managers
import InstaGLAM.FirebaseManager.Completion
import Mathlib.Logic.Relation

/-!
# FirebaseManager/Registry — registrations as a table of phases

    callback programs  ◂──toWorld──  Registry (one phase per call)

Any number of `registerNewUser` calls, from any clients, share one Firebase.  Each call is a
callback program; `Registry` forgets the closures and keeps, for each call, which of its steps is
next.  `reachable_iff` says that nothing is lost: the reachable worlds are exactly the images of the
reachable registries, so every fact about registrations is proved on the table of phases.
-/

namespace InstaGLAM

open Callback

/-! ## The calls as callback programs -/

/-- One call to `registerNewUser`, and the client that makes it. -/
structure Registration (κ : Type*) where
  client : κ
  username : SwiftString
  email : SwiftString
  password : SwiftString

namespace Registration

variable {κ : Type*} (r : Registration κ)

/-- `insertNewUser` gets to `setValue` for this registration. -/
abbrev CanInsert : Prop := DatabaseManager.CanInsert r.email r.username

/-- The path the record of this registration is written to. -/
def path : Path := pathWithString (safeDataBaseKey r.email)

/-- The record this registration writes. -/
def record : UserRecord := ⟨r.username⟩

/-- The code of the call, with a completion that reports. -/
def program : Code Bool := AuthManager.registerNewUser r.username r.email r.password report

theorem path_of_isValidEmail {r : Registration κ} (h : isValidEmail r.email = true) :
    r.path = [safeDataBaseKey r.email] := InstaGLAM.path_of_isValidEmail h

end Registration

/-- The calls `calls`, each made at most once, against one Firebase. -/
def registrationSystem {ι κ : Type*} [DecidableEq κ] (calls : ι → Registration κ) :
    System ι Request Reply Bool (Registration κ) (Firebase κ) where
  program := Registration.program
  enabled i t _ := t = calls i
  serve t := Firebase.Serve t.client
  perform _ fb := fb

/-- Call `i` has completed with `b`. -/
def Reported {ι κ : Type*} (w : World ι Request Reply Bool (Registration κ) (Firebase κ)) (i : ι)
    (b : Bool) : Prop :=
  ∃ th, w.threads i = some th ∧ th.log = [b]

/-! ## The table of phases -/

/-- Where a call stands: waiting for `createUser`, waiting for `setValue`, reported true, reported
false after the one or the other failed, or stopped by the exception `child` or `setValue`
throws. -/
inductive Phase where
  | creating | inserting | registered | refused | rejected | raised
  deriving DecidableEq

/-- The closures and events a phase stands for. -/
def Registration.thread {κ : Type*} (r : Registration κ) :
    Phase → Thread Request Reply Bool (Registration κ)
  | .creating => ⟨r, [⟨.createUser r.email r.password,
      AuthManager.didCreateUser r.username r.email report⟩], []⟩
  | .inserting => ⟨r, [⟨.setValue r.path r.record, DatabaseManager.didSetValue report⟩], []⟩
  | .registered => ⟨r, [], [true]⟩
  | .refused => ⟨r, [], [false]⟩
  | .rejected => ⟨r, [], [false]⟩
  | .raised => ⟨r, [], []⟩

/-- The stores, and the phase of each call made so far. -/
@[ext] structure Registry (ι κ : Type*) where
  store : Firebase κ
  phase : ι → Option Phase

namespace Registry

variable {ι κ : Type*} {calls : ι → Registration κ} {a : Registry ι κ} {fb : Firebase κ} {i : ι}

/-- The world of callback programs a registry stands for. -/
def toWorld (calls : ι → Registration κ) (a : Registry ι κ) :
    World ι Request Reply Bool (Registration κ) (Firebase κ) :=
  ⟨a.store, fun i => (a.phase i).map (calls i).thread⟩

theorem toWorld_threads_eq {p : Phase} (h : a.phase i = some p) :
    (a.toWorld calls).threads i = some ((calls i).thread p) :=
  congrArg (Option.map (calls i).thread) h

theorem exists_phase_of_toWorld {th} (h : (a.toWorld calls).threads i = some th) :
    ∃ p, a.phase i = some p ∧ th = (calls i).thread p := by
  obtain ⟨p, hp, rfl⟩ := Option.map_eq_some_iff.1 h
  exact ⟨p, hp, rfl⟩

theorem reported_true_iff : Reported (a.toWorld calls) i true ↔ a.phase i = some .registered := by
  constructor
  · rintro ⟨th, hth, hlog⟩
    obtain ⟨p, hp, rfl⟩ := exists_phase_of_toWorld hth
    cases p <;> simp [Registration.thread] at hlog
    exact hp
  · intro h
    exact ⟨_, toWorld_threads_eq h, rfl⟩

theorem reported_false_iff : Reported (a.toWorld calls) i false ↔
    a.phase i = some .refused ∨ a.phase i = some .rejected := by
  constructor
  · rintro ⟨th, hth, hlog⟩
    obtain ⟨p, hp, rfl⟩ := exists_phase_of_toWorld hth
    cases p <;> simp [Registration.thread] at hlog
    · exact Or.inl hp
    · exact Or.inr hp
  · rintro (h | h)
    · exact ⟨_, toWorld_threads_eq h, rfl⟩
    · exact ⟨_, toWorld_threads_eq h, rfl⟩

/-- No call made yet. -/
def initial (fb : Firebase κ) : Registry ι κ := ⟨fb, fun _ => none⟩

section Move

variable [DecidableEq ι]

/-- Call `i` moves to phase `p`, leaving the stores as `fb`. -/
def move (a : Registry ι κ) (i : ι) (p : Phase) (fb : Firebase κ) : Registry ι κ :=
  ⟨fb, Function.update a.phase i (some p)⟩

@[simp] theorem move_store (a : Registry ι κ) (i : ι) (p : Phase) (fb : Firebase κ) :
    (a.move i p fb).store = fb := rfl

@[simp] theorem move_phase_self (a : Registry ι κ) (i : ι) (p : Phase) (fb : Firebase κ) :
    (a.move i p fb).phase i = some p := Function.update_self ..

theorem move_phase_of_ne {j : ι} (h : j ≠ i) {p : Phase} :
    (a.move i p fb).phase j = a.phase j := Function.update_of_ne h ..

theorem toWorld_move (p : Phase) : (a.move i p fb).toWorld calls =
    ⟨fb, Function.update (a.toWorld calls).threads i (some ((calls i).thread p))⟩ := by
  refine congrArg (World.mk fb) (funext fun j => ?_)
  by_cases hj : j = i
  · subst hj
    simp [move]
  · simp [move, toWorld, hj]

end Move

/-! ## Running the closures of one call -/

section Exec

variable [DecidableEq κ] {s s' : Firebase κ} {es : List Bool}
  {ws : List (Waiting Request Reply Bool)}

/-- Launching a call leaves its `createUser` request in flight, and nothing else. -/
theorem exec_program (i : ι) :
    Exec ((registrationSystem calls).serve (calls i)) (registrationSystem calls).perform
        ((registrationSystem calls).program (calls i)) s s' es ws ↔
      s' = s ∧ es = [] ∧ ws = ((calls i).thread .creating).waiting := by
  change Exec _ _ (calls i).program s s' es ws ↔ _
  rw [Registration.program, AuthManager.registerNewUser_eq, exec_request_done]
  rfl

/-- A completion that reports does only that. -/
theorem exec_report {b : Bool} {t : Registration κ} :
    Exec ((registrationSystem calls).serve t) (registrationSystem calls).perform
        (report b) s s' es ws ↔ s' = s ∧ es = [b] ∧ ws = [] := exec_emit_done

/-- After a successful `createUser` the call waits for `setValue`, or has raised. -/
theorem exec_didCreateUser {reply : Reply} (i : ι) (hok : reply.ok = true) :
    Exec ((registrationSystem calls).serve (calls i)) (registrationSystem calls).perform
        (AuthManager.didCreateUser (calls i).username (calls i).email report reply) s s' es ws ↔
      s' = s ∧ es = [] ∧
        ws = ((calls i).thread (if (calls i).CanInsert then .inserting else .raised)).waiting := by
  rw [AuthManager.didCreateUser_of_ok hok]
  by_cases hcan : (calls i).CanInsert
  · rw [DatabaseManager.insertNewUser_of_canInsert hcan, exec_request_done, if_pos hcan]
    rfl
  · rw [DatabaseManager.insertNewUser_of_not hcan, exec_raise, if_neg hcan]
    rfl

end Exec

/-- The only request a phase has in flight is the one an answer finds. -/
theorem eq_of_singleton {α : Type*} {v w : α} {pre post : List α} (h : [v] = pre ++ w :: post) :
    pre = [] ∧ post = [] ∧ v = w := by
  cases pre with
  | nil => simpa [eq_comm, and_comm] using h
  | cons u pre => simp at h

/-! ## What one step of any call can do -/

variable [DecidableEq ι] [DecidableEq κ]

/-- **The steps of the table**: a call is launched, `createUser` fails, `createUser` succeeds (and
what cannot be inserted raises), `setValue` succeeds, `setValue` fails. -/
inductive Step (calls : ι → Registration κ) : Registry ι κ → Registry ι κ → Prop
  | launch {a : Registry ι κ} {i : ι} : a.phase i = none →
      Step calls a (a.move i .creating a.store)
  | refuse {a : Registry ι κ} {i : ι} : a.phase i = some .creating →
      Step calls a (a.move i .refused a.store)
  | create {a : Registry ι κ} {i : ι} : a.phase i = some .creating →
      a.store.accounts (calls i).email = none → (calls i).CanInsert →
      Step calls a (a.move i .inserting
        (a.store.createAccount (calls i).client (calls i).email (calls i).password))
  | trap {a : Registry ι κ} {i : ι} : a.phase i = some .creating →
      a.store.accounts (calls i).email = none → ¬ (calls i).CanInsert →
      Step calls a (a.move i .raised
        (a.store.createAccount (calls i).client (calls i).email (calls i).password))
  | insert {a : Registry ι κ} {i : ι} : a.phase i = some .inserting →
      Step calls a (a.move i .registered (a.store.setRecord (calls i).path (calls i).record))
  | reject {a : Registry ι κ} {i : ι} : a.phase i = some .inserting →
      Step calls a (a.move i .rejected a.store)

/-- The registries reached from `fb` with no call made. -/
abbrev Reached (calls : ι → Registration κ) (fb : Firebase κ) (a : Registry ι κ) : Prop :=
  Relation.ReflTransGen (Step calls) (initial fb) a

/-! ## The registry is exactly the callback programs -/

/-- **Each step of the programs is a step of the table.** -/
theorem exists_step_of_step {l w}
    (h : Callback.Step (registrationSystem calls) (a.toWorld calls) l w) :
    ∃ a', Step calls a a' ∧ w = a'.toWorld calls := by
  cases h with
  | @launch i t s' es ws hi ht hx =>
    obtain rfl : t = calls i := ht
    obtain ⟨rfl, rfl, rfl⟩ := (exec_program i).1 hx
    exact ⟨_, .launch (Option.map_eq_none_iff.1 hi), by rw [toWorld_move]; rfl⟩
  | @answer i th pre r k post reply s₁ s' es ws hi hw hs hx =>
    obtain ⟨p, hp, rfl⟩ := exists_phase_of_toWorld hi
    cases p with
    | creating =>
      obtain ⟨rfl, rfl, hrk⟩ := eq_of_singleton hw
      obtain ⟨rfl, rfl⟩ := Waiting.mk.inj hrk
      cases hs with
      | created hok hfree =>
        obtain ⟨rfl, rfl, rfl⟩ := (exec_didCreateUser i hok).1 hx
        by_cases hcan : (calls i).CanInsert
        · exact ⟨_, .create hp hfree hcan, by rw [toWorld_move, if_pos hcan]; rfl⟩
        · exact ⟨_, .trap hp hfree hcan, by rw [toWorld_move, if_neg hcan]; rfl⟩
      | notCreated hok =>
        rw [AuthManager.didCreateUser_of_not_ok hok] at hx
        obtain ⟨rfl, rfl, rfl⟩ := exec_report.1 hx
        exact ⟨_, .refuse hp, by rw [toWorld_move]; rfl⟩
    | inserting =>
      obtain ⟨rfl, rfl, hrk⟩ := eq_of_singleton hw
      obtain ⟨rfl, rfl⟩ := Waiting.mk.inj hrk
      cases hs with
      | written hok =>
        rw [DatabaseManager.didSetValue_eq, hok] at hx
        obtain ⟨rfl, rfl, rfl⟩ := exec_report.1 hx
        exact ⟨_, .insert hp, by rw [toWorld_move]; rfl⟩
      | notWritten hok =>
        rw [DatabaseManager.didSetValue_eq, hok] at hx
        obtain ⟨rfl, rfl, rfl⟩ := exec_report.1 hx
        exact ⟨_, .reject hp, by rw [toWorld_move]; rfl⟩
    | registered => simp [Registration.thread] at hw
    | refused => simp [Registration.thread] at hw
    | rejected => simp [Registration.thread] at hw
    | raised => simp [Registration.thread] at hw

/-- **Each step of the table is a step of the programs.** -/
theorem reachable_of_step {w₀ : World ι Request Reply Bool (Registration κ) (Firebase κ)}
    {a' : Registry ι κ} (hw : Reachable (registrationSystem calls) w₀ (a.toWorld calls))
    (h : Step calls a a') : Reachable (registrationSystem calls) w₀ (a'.toWorld calls) := by
  cases h with
  | @launch i hp =>
    rw [toWorld_move]
    exact hw.launch i (congrArg (Option.map (calls i).thread) hp) rfl
      ((exec_program i).2 ⟨rfl, rfl, rfl⟩) trivial
  | @refuse i hp =>
    rw [toWorld_move]
    exact hw.answer i (toWorld_threads_eq hp) .failure (.notCreated rfl)
      (exec_report.2 ⟨rfl, rfl, rfl⟩) trivial
  | @create i hp hfree hcan =>
    rw [toWorld_move]
    exact hw.answer i (toWorld_threads_eq hp) .success (.created rfl hfree)
      ((exec_didCreateUser i rfl).2 ⟨rfl, rfl, by rw [if_pos hcan]; rfl⟩) trivial
  | @trap i hp hfree hcan =>
    rw [toWorld_move]
    exact hw.answer i (toWorld_threads_eq hp) .success (.created rfl hfree)
      ((exec_didCreateUser i rfl).2 ⟨rfl, rfl, by rw [if_neg hcan]; rfl⟩) trivial
  | @insert i hp =>
    rw [toWorld_move]
    exact hw.answer i (toWorld_threads_eq hp) .success (.written rfl)
      (exec_report.2 ⟨rfl, rfl, rfl⟩) trivial
  | @reject i hp =>
    rw [toWorld_move]
    exact hw.answer i (toWorld_threads_eq hp) .failure (.notWritten rfl)
      (exec_report.2 ⟨rfl, rfl, rfl⟩) trivial

/-- **The reachable worlds are the images of the reachable registries.** -/
theorem reachable_iff {w : World ι Request Reply Bool (Registration κ) (Firebase κ)} :
    Reachable (registrationSystem calls) (World.initial fb) w ↔
      ∃ a, Reached calls fb a ∧ w = a.toWorld calls := by
  constructor
  · intro h
    refine h.invariant (I := fun w => ∃ a, Reached calls fb a ∧ w = a.toWorld calls)
      ⟨initial fb, .refl, rfl⟩ ?_
    rintro w l w' - ⟨a, ha, rfl⟩ hs -
    obtain ⟨a', hstep, rfl⟩ := exists_step_of_step hs
    exact ⟨a', ha.tail hstep, rfl⟩
  · rintro ⟨a, ha, rfl⟩
    induction ha with
    | refl => exact .refl
    | tail _ hs ih => exact reachable_of_step ih hs

/-- **The run rule for registrations**: prove the start and each step of the table. -/
theorem Reached.invariant {I : Registry ι κ → Prop} (h : Reached calls fb a) (h₀ : I (initial fb))
    (hstep : ∀ a a', I a → Step calls a a' → I a') : I a := by
  induction h with
  | refl => exact h₀
  | tail _ hs ih => exact hstep _ _ ih hs

end Registry

end InstaGLAM
