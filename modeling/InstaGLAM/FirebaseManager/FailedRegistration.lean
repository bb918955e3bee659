import InstaGLAM.FirebaseManager.Registration

/-!
# FirebaseManager/FailedRegistration — what a registration that reports false leaves behind

One call on its own: the phase it is in fixes what the stores are (`Registration.stored`), so a
report of false leaves them as they were, or, when `createUser` went through and `setValue` did not,
with the new account signed in.  Nothing takes that account back, and `failedRegistration_leaves`
says what it means for a second try.
-/

namespace InstaGLAM

open Callback

variable {κ : Type*} {fb : Firebase κ}

/-! ## The stores, phase by phase -/

/-- What a call has done to the stores by the time it is in a phase. -/
def Registration.stored [DecidableEq κ] (r : Registration κ) (fb : Firebase κ) :
    Phase → Firebase κ
  | .creating | .refused => fb
  | .inserting | .rejected | .raised => fb.createAccount r.client r.email r.password
  | .registered => (fb.createAccount r.client r.email r.password).setRecord r.path r.record

/-- The phases a call is in once `createUser` has succeeded. -/
def Phase.HasAccount : Phase → Prop
  | .creating | .refused => False
  | .inserting | .rejected | .raised | .registered => True

namespace Registry

variable [DecidableEq κ] {r : Registration κ} {a a' : Registry Unit κ}

/-- The stores are those of the phase, and the email was free if there is an account now. -/
def Alone (r : Registration κ) (fb : Firebase κ) (a : Registry Unit κ) : Prop :=
  (a.phase () = none → a.store = fb) ∧ ∀ p, a.phase () = some p →
    a.store = r.stored fb p ∧ (p.HasAccount → fb.accounts r.email = none)

theorem alone_move {p : Phase} (hacc : p.HasAccount → fb.accounts r.email = none) :
    Alone r fb (a.move () p (r.stored fb p)) := by
  refine ⟨fun hp => by simp at hp, fun q hq => ?_⟩
  rw [move_phase_self] at hq
  obtain rfl := Option.some.inj hq
  exact ⟨rfl, hacc⟩

theorem Alone.step (h : Alone r fb a) (hs : Step (fun _ => r) a a') : Alone r fb a' := by
  cases hs with
  | launch hp =>
    rw [h.1 hp]
    exact alone_move (p := .creating) False.elim
  | refuse hp =>
    rw [(h.2 _ hp).1]
    exact alone_move (p := .refused) False.elim
  | create hp hfree hcan =>
    rw [(h.2 _ hp).1] at hfree ⊢
    exact alone_move (p := .inserting) fun _ => hfree
  | trap hp hfree hcan =>
    rw [(h.2 _ hp).1] at hfree ⊢
    exact alone_move (p := .raised) fun _ => hfree
  | insert hp =>
    rw [(h.2 _ hp).1]
    exact alone_move (p := .registered) fun _ => (h.2 _ hp).2 trivial
  | reject hp =>
    rw [(h.2 _ hp).1]
    exact alone_move (p := .rejected) fun _ => (h.2 _ hp).2 trivial

theorem Reached.alone (h : Reached (fun _ => r) fb a) : Alone r fb a :=
  h.invariant ⟨fun _ => rfl, fun _ hp => by simp [initial] at hp⟩ fun _ _ ih hs => ih.step hs

end Registry

/-! ## After the report -/

section Failure

variable [DecidableEq κ] {r : Registration κ}

/-- No call registers an email that has an account. -/
theorem not_reported_of_account (h : fb.accounts r.email ≠ none)
    {w : World Unit Request Reply Bool (Registration κ) (Firebase κ)}
    (hw : Reachable (registrationSystem fun _ => r) (World.initial fb) w) :
    ¬ Reported w () true := by
  obtain ⟨a, ha, rfl⟩ := Registry.reachable_iff.1 hw
  rw [Registry.reported_true_iff]
  exact fun hp => h ((ha.alone.2 _ hp).2 trivial)

/-- **What a failed registration leaves**: either nothing, or, when it was `setValue` that failed,
its account, signed in.  The database is untouched, and after the account no repeat succeeds. -/
theorem failedRegistration_leaves (r : Registration κ) (fb : Firebase κ)
    {w : World Unit Request Reply Bool (Registration κ) (Firebase κ)}
    (hw : Reachable (registrationSystem fun _ => r) (World.initial fb) w)
    (hfalse : Reported w () false) :
    w.store.records = fb.records ∧
      (w.store = fb ∨
        fb.accounts r.email = none ∧ w.store = fb.createAccount r.client r.email r.password ∧
          ∀ w', Reachable (registrationSystem fun _ : Unit => r) (World.initial w.store) w' →
            ¬ Reported w' () true) := by
  obtain ⟨a, ha, rfl⟩ := Registry.reachable_iff.1 hw
  rcases Registry.reported_false_iff.1 hfalse with hp | hp
  · have hstore : (a.toWorld fun _ => r).store = fb := (ha.alone.2 _ hp).1
    exact ⟨congrArg Firebase.records hstore, Or.inl hstore⟩
  · obtain ⟨hstore, hfree⟩ := ha.alone.2 _ hp
    replace hstore : (a.toWorld fun _ => r).store = fb.createAccount r.client r.email r.password :=
      hstore
    refine ⟨by rw [hstore, Firebase.createAccount_records], Or.inr ⟨hfree trivial, hstore, ?_⟩⟩
    intro w' hw'
    refine not_reported_of_account ?_ hw'
    rw [hstore, Firebase.createAccount_accounts_self]
    simp

/-- `setValue` can fail after `createUser` has succeeded. -/
theorem exists_rejected (hw : r.CanWrite fb) :
    ∃ w, Reachable (registrationSystem fun _ : Unit => r) (World.initial fb) w ∧
      Reported w () false ∧ w.store = fb.createAccount r.client r.email r.password := by
  have hstart : Registry.Reached (fun _ : Unit => r) fb (Registry.initial fb) := .refl
  have hcreated := (hstart.tail (.launch (i := ()) rfl)).tail
    (.create (Registry.move_phase_self ..) hw.1 hw.2)
  have hrun := hcreated.tail (.reject (Registry.move_phase_self ..))
  exact ⟨_, Registry.reachable_iff.2 ⟨_, hrun, rfl⟩,
    Registry.reported_false_iff.2 (Or.inr (Registry.move_phase_self ..)), rfl⟩

end Failure

/-- Ruth's registration fails at the database: her account stays behind. -/
theorem failedRegistration_leaves_account : ¬ ∀ (r : Registration Unit) (fb : Firebase Unit) w,
    Reachable (registrationSystem fun _ : Unit => r) (World.initial fb) w →
      Reported w () false → w.store = fb := by
  intro h
  obtain ⟨w, hw, hfalse, hstore⟩ := @exists_rejected Unit Firebase.empty _ (clash false)
    ⟨rfl, by decide⟩
  have hacc := congrArg (fun fb : Firebase Unit => fb.accounts (clash false).email)
    (hstore.symm.trans (h _ _ w hw hfalse))
  rw [Firebase.createAccount_accounts_self] at hacc
  exact nomatch hacc

/-- After that failure Ruth cannot register. -/
theorem ruth_cannot_retry :
    ∃ w, Reachable (registrationSystem fun _ : Unit => clash false)
        (World.initial Firebase.empty) w ∧
      ∀ w', Reachable (registrationSystem fun _ : Unit => clash false) (World.initial w.store) w' →
        ¬ Reported w' () true := by
  obtain ⟨w, hw, hfalse, hstore⟩ := @exists_rejected Unit Firebase.empty _ (clash false)
    ⟨rfl, by decide⟩
  refine ⟨w, hw, ?_⟩
  rcases (failedRegistration_leaves _ _ hw hfalse).2 with h | h
  · have hacc := congrArg (fun fb : Firebase Unit => fb.accounts (clash false).email)
      (hstore.symm.trans h)
    rw [Firebase.createAccount_accounts_self] at hacc
    exact nomatch hacc
  · exact h.2.2

end InstaGLAM
