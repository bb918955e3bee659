import InstaGLAM.FirebaseManager.Registration

/-!
# FirebaseManager/Usernames — whether usernames stay unique

`registerNewUser` asks `canCreateNewUser` first, and that looks nothing up.  So a record can only
come from the initial database or from a call that got through (`Registry.Written`), and both the
uniqueness of usernames (`usernamesUnique_iff`) and the validity of the check up to the insert
(`usernamesChecked_iff`) are left to the callers.
-/

namespace InstaGLAM

open Callback

variable {ι κ : Type*} {calls : ι → Registration κ} {fb : Firebase κ}

/-! ## What is asked -/

/-- No username is in two records. -/
def UsernamesUnique (fb : Firebase κ) : Prop :=
  ∀ p q r, fb.records p = some r → fb.records q = some r → p = q

/-- While a call is in flight, the username it was told is available is in no record. -/
def ChecksStand (calls : ι → Registration κ)
    (w : World ι Request Reply Bool (Registration κ) (Firebase κ)) : Prop :=
  ∀ i th, w.threads i = some th → th.waiting ≠ [] →
    ∀ p, w.store.records p ≠ some ⟨(calls i).username⟩

/-! ## Where records come from -/

namespace Registry

variable {a a' : Registry ι κ} {i : ι}

/-- Accounts stay, only calls that can write get to write, and every record is an old one or that of
a registered call. -/
structure Written (calls : ι → Registration κ) (fb : Firebase κ) (a : Registry ι κ) : Prop where
  accounts : ∀ e, a.store.accounts e = none → fb.accounts e = none
  writer : ∀ i, a.Created i → (calls i).CanWrite fb
  origin : ∀ p r, a.store.records p = some r → fb.records p = some r ∨
    ∃ i, a.phase i = some .registered ∧ (calls i).path = p ∧ (calls i).record = r

theorem Written.initial (fb : Firebase κ) : Written calls fb (initial fb) :=
  ⟨fun _ he => he, fun i hi => by simp [Created, Registry.initial] at hi,
    fun _ _ hp => Or.inl hp⟩

variable [DecidableEq ι]

/-- A move that writes no record and drops no account. -/
theorem Written.move {p : Phase} {fb' : Firebase κ} (h : Written calls fb a)
    (hacc : ∀ e, fb'.accounts e = none → a.store.accounts e = none)
    (hrec : fb'.records = a.store.records) (hi : a.phase i ≠ some .registered)
    (hw : (a.move i p fb').Created i → (calls i).CanWrite fb) :
    Written calls fb (a.move i p fb') := by
  refine ⟨fun e he => h.accounts e (hacc e he), fun j hj => ?_, fun q r hr => ?_⟩
  · by_cases hji : j = i
    · subst hji
      exact hw hj
    · exact h.writer j (by simpa only [Created, move_phase_of_ne hji] using hj)
  · rw [move_store, hrec] at hr
    refine (h.origin q r hr).imp_right ?_
    rintro ⟨j, hj, hpath⟩
    have hji : j ≠ i := fun e => hi (e ▸ hj)
    exact ⟨j, by rwa [move_phase_of_ne hji], hpath⟩

variable [DecidableEq κ]

theorem Written.step (h : Written calls fb a) (hs : Step calls a a') : Written calls fb a' := by
  have hcreate : ∀ (r : Registration κ) e, (a.store.createAccount r.client r.email
      r.password).accounts e = none → a.store.accounts e = none := by
    intro r e he
    by_cases hre : e = r.email
    · simp [hre] at he
    · rwa [Firebase.createAccount_accounts_of_ne hre] at he
  cases hs with
  | launch hp => exact h.move (fun _ he => he) rfl (by simp [hp]) fun hc => by simp [Created] at hc
  | refuse hp => exact h.move (fun _ he => he) rfl (by simp [hp]) fun hc => by simp [Created] at hc
  | create hp hfree hcan =>
    exact h.move (hcreate _) rfl (by simp [hp]) fun _ => ⟨h.accounts _ hfree, hcan⟩
  | trap hp hfree hcan =>
    exact h.move (hcreate _) rfl (by simp [hp]) fun hc => by simp [Created] at hc
  | reject hp =>
    exact h.move (fun _ he => he) rfl (by simp [hp]) fun _ => h.writer _ (Or.inl hp)
  | @insert i hp =>
    have hnew : Written calls fb (a.move i .registered a.store) :=
      h.move (fun _ he => he) rfl (by simp [hp]) fun _ => h.writer _ (Or.inl hp)
    refine ⟨hnew.accounts, hnew.writer, fun q r hr => ?_⟩
    rw [move_store] at hr
    rcases Firebase.records_of_setRecord hr with ⟨-, hr⟩ | ⟨rfl, rfl⟩
    · exact hnew.origin q r hr
    · exact Or.inr ⟨i, move_phase_self .., rfl, rfl⟩

theorem Reached.written (h : Reached calls fb a) : Written calls fb a :=
  h.invariant (Written.initial fb) fun _ _ ih hs => ih.step hs

end Registry

/-! ## From the origin of the records to their usernames -/

/-- No call able to write leaves a username in two records: what already carries its username lies
where it writes. -/
structure KeepApart (calls : ι → Registration κ) (fb : Firebase κ) : Prop where
  old : ∀ i, (calls i).CanWrite fb → ∀ p, fb.records p = some (calls i).record →
    overwritten (calls i).path (calls i).record p ≠ none
  new : ∀ i j, (calls i).CanWrite fb → (calls j).CanWrite fb →
    (calls i).record = (calls j).record →
      overwritten (calls i).path (calls i).record (calls j).path ≠ none

/-- Writing a record that is nowhere out of the write's reach keeps usernames unique. -/
theorem UsernamesUnique.setRecord {path : Path} {value : UserRecord} (hu : UsernamesUnique fb)
    (h : ∀ p, fb.records p = some value → overwritten path value p ≠ none) :
    UsernamesUnique (fb.setRecord path value) := by
  intro p q r hp hq
  rcases Firebase.records_of_setRecord hp with ⟨hpout, hpold⟩ | ⟨rfl, rfl⟩
  · rcases Firebase.records_of_setRecord hq with ⟨-, hqold⟩ | ⟨rfl, rfl⟩
    · exact hu p q r hpold hqold
    · exact absurd hpout (h p hpold)
  · rcases Firebase.records_of_setRecord hq with ⟨hqout, hqold⟩ | ⟨rfl, -⟩
    · exact absurd hqout (h q hqold)
    · rfl

/-- **What one step keeps.** -/
theorem Registry.Written.usernamesUnique_step [DecidableEq ι] [DecidableEq κ] {a a' : Registry ι κ}
    (h : Registry.Written calls fb a) (hapart : KeepApart calls fb) (hu : UsernamesUnique a.store)
    (hs : Registry.Step calls a a') : UsernamesUnique a'.store := by
  cases hs with
  | launch | refuse | reject | create | trap => exact hu
  | @insert i hp =>
    refine UsernamesUnique.setRecord hu fun p hrec => ?_
    have hi := h.writer i (Or.inl hp)
    rcases h.origin p _ hrec with hold | ⟨j, hj, rfl, hname⟩
    · exact hapart.old i hi p hold
    · exact hapart.new i j hi (h.writer j (Or.inr (Or.inl hj))) hname.symm

/-- **What a run keeps.** -/
theorem Registry.Reached.usernamesUnique [DecidableEq ι] [DecidableEq κ] {a : Registry ι κ}
    (h : Registry.Reached calls fb a) (hapart : KeepApart calls fb) (hu : UsernamesUnique fb) :
    UsernamesUnique a.store :=
  (h.invariant (I := fun a => Registry.Written calls fb a ∧ UsernamesUnique a.store)
    ⟨Registry.Written.initial fb, hu⟩
    fun _ _ ih hs => ⟨ih.1.step hs, ih.1.usernamesUnique_step hapart ih.2 hs⟩).2

theorem checksStand_of_apart {a : Registry ι κ} (h : Registry.Written calls fb a)
    (hnew : ∀ i p, fb.records p ≠ some ⟨(calls i).username⟩)
    (happart : ∀ i j, i ≠ j → (calls j).CanWrite fb → (calls i).username ≠ (calls j).username) :
    ChecksStand calls (a.toWorld calls) := by
  intro i th hth hw p hp
  obtain ⟨ph, hph, rfl⟩ := Registry.exists_phase_of_toWorld hth
  rcases h.origin p _ hp with hp | ⟨j, hj, -, hr⟩
  · exact hnew i p hp
  · have hij : i ≠ j := by
      rintro rfl
      obtain rfl := Option.some.inj (hph.symm.trans hj)
      exact hw rfl
    exact happart i j hij (h.writer j (Or.inr (Or.inl hj))) (congrArg UserRecord.username hr).symm

section Usernames

variable [DecidableEq ι] [DecidableEq κ]

/-- A username that is already taken is reported available all the same. -/
theorem not_checksStand_of_taken {i : ι} {p : Path}
    (hp : fb.records p = some ⟨(calls i).username⟩) :
    ∃ w, Reachable (registrationSystem calls) (World.initial fb) w ∧ ¬ ChecksStand calls w := by
  have hstart : Registry.Reached calls fb (Registry.initial fb) := .refl
  have hi := hstart.tail (.launch (i := i) rfl)
  refine ⟨_, Registry.reachable_iff.2 ⟨_, hi, rfl⟩, fun hw => ?_⟩
  exact hw i _ (Registry.toWorld_threads_eq (Registry.move_phase_self ..)) (by simp
    [Registration.thread]) p hp

/-- A second call takes the username while the first is still in flight. -/
theorem not_checksStand_of_overtaken {i j : ι} (hij : i ≠ j) (hj : (calls j).CanWrite fb)
    (hname : (calls i).username = (calls j).username) :
    ∃ w, Reachable (registrationSystem calls) (World.initial fb) w ∧ ¬ ChecksStand calls w := by
  have hstart : Registry.Reached calls fb (Registry.initial fb) := .refl
  have hi : Registry.Reached calls fb _ := hstart.tail (.launch (i := i) rfl)
  have hrun := hi.register (i := j) (Registry.move_phase_of_ne hij.symm) hj
  refine ⟨_, Registry.reachable_iff.2 ⟨_, hrun, rfl⟩, fun hw => ?_⟩
  have hphase : (Function.update ((Registry.initial fb).move i .creating fb).phase j
      (some .registered)) i = some .creating := by
    rw [Function.update_of_ne hij]
    exact Registry.move_phase_self ..
  refine hw i _ (Registry.toWorld_threads_eq hphase) (by simp [Registration.thread])
    (calls j).path ?_
  rw [hname]
  exact Firebase.setRecord_records_self ..

/-- Two records with one username, from one call that goes through. -/
theorem not_usernamesUnique_of_taken {i : ι} {p : Path} (hi : (calls i).CanWrite fb)
    (hp : fb.records p = some (calls i).record)
    (hout : overwritten (calls i).path (calls i).record p = none) :
    ∃ w, Reachable (registrationSystem calls) (World.initial fb) w ∧
      ¬ UsernamesUnique w.store := by
  have hstart : Registry.Reached calls fb (Registry.initial fb) := .refl
  have hrun := hstart.register (i := i) rfl hi
  refine ⟨_, Registry.reachable_iff.2 ⟨_, hrun, rfl⟩, fun hw => ?_⟩
  have hpath := hw p _ _ ((Firebase.setRecord_records_of_none hout).trans hp)
    (Firebase.setRecord_records_self ..)
  simp [hpath] at hout

/-- Two records with one username, from two calls that go through one after the other. -/
theorem not_usernamesUnique_of_twins {i j : ι} (hi : (calls i).CanWrite fb)
    (hj : (calls j).CanWrite fb) (hname : (calls i).record = (calls j).record)
    (hout : overwritten (calls j).path (calls j).record (calls i).path = none) :
    ∃ w, Reachable (registrationSystem calls) (World.initial fb) w ∧
      ¬ UsernamesUnique w.store := by
  have hne : (calls i).path ≠ (calls j).path := fun hpath => by simp [hpath] at hout
  have hemail : (calls i).email ≠ (calls j).email := fun he =>
    hne (by rw [Registration.path, Registration.path, he])
  obtain ⟨a, ha, -, hrecj, hreci⟩ := Registry.exists_registered_pair hi hj hemail
  refine ⟨_, Registry.reachable_iff.2 ⟨a, ha, rfl⟩, fun hw => hne ?_⟩
  exact hw _ _ _ (hreci hout) (hname ▸ hrecj)

/-- **No two records ever share a username exactly when** each call able to write reaches every
record with its username, be it in the initial database or of another such call. -/
theorem usernamesUnique_iff (calls : ι → Registration κ) {fb : Firebase κ}
    (hu : UsernamesUnique fb) :
    (∀ w, Reachable (registrationSystem calls) (World.initial fb) w → UsernamesUnique w.store) ↔
      KeepApart calls fb := by
  constructor
  · intro h
    refine ⟨fun i hi p hp hout => ?_, fun i j hi hj hname hout => ?_⟩
    · obtain ⟨w, hw, hbad⟩ := not_usernamesUnique_of_taken hi hp hout
      exact hbad (h w hw)
    · obtain ⟨w, hw, hbad⟩ := not_usernamesUnique_of_twins hj hi hname.symm hout
      exact hbad (h w hw)
  · intro hapart w hw
    obtain ⟨a, ha, rfl⟩ := Registry.reachable_iff.1 hw
    exact ha.usernamesUnique hapart hu

/-- **Usernames stay unique and the checks stay valid, in every run, exactly when no call asks for
a username that is taken or that a call able to write asks for too.** -/
theorem usernamesChecked_iff (calls : ι → Registration κ) (fb : Firebase κ)
    (hu : UsernamesUnique fb) :
    (∀ w, Reachable (registrationSystem calls) (World.initial fb) w →
        UsernamesUnique w.store ∧ ChecksStand calls w) ↔
      (∀ i p, fb.records p ≠ some ⟨(calls i).username⟩) ∧
        ∀ i j, i ≠ j → (calls j).CanWrite fb → (calls i).username ≠ (calls j).username := by
  constructor
  · intro h
    refine ⟨fun i p hp => ?_, fun i j hij hj hname => ?_⟩
    · obtain ⟨w, hw, hbad⟩ := not_checksStand_of_taken hp
      exact hbad (h w hw).2
    · obtain ⟨w, hw, hbad⟩ := not_checksStand_of_overtaken hij hj hname
      exact hbad (h w hw).2
  · rintro ⟨hnew, happart⟩ w hw
    obtain ⟨a, ha, rfl⟩ := Registry.reachable_iff.1 hw
    refine ⟨ha.usernamesUnique ⟨fun i _ p hp => absurd hp (hnew i p), ?_⟩ hu,
      checksStand_of_apart ha.written hnew happart⟩
    intro i j _ hj hname hout
    refine happart i j ?_ hj (congrArg UserRecord.username hname)
    rintro rfl
    simp at hout

end Usernames

/-- Two emails for one username. -/
def twins : Bool → Registration Unit
  | false => ⟨(), "ruth".toList, "ruth@c.co".toList, "passw0rd".toList⟩
  | true => ⟨(), "ruth".toList, "emar1@c.co".toList, "passw0rd".toList⟩

theorem twins_share_username : ∃ w,
    Reachable (registrationSystem twins) (World.initial Firebase.empty) w ∧
      ¬ UsernamesUnique w.store := by
  refine not_usernamesUnique_of_twins (i := false) (j := true) ⟨rfl, by decide⟩ ⟨rfl, by decide⟩
    rfl ?_
  rw [Registration.path_of_isValidEmail (by decide), Registration.path_of_isValidEmail (by decide)]
  exact overwritten_singleton (by decide) _

/-- Two usernames that nobody has: both calls go through, and the usernames are unique. -/
theorem apart_unique : ∃ w,
    Reachable (registrationSystem apart) (World.initial Firebase.empty) w ∧
      Reported w false true ∧ UsernamesUnique w.store ∧ ChecksStand apart w := by
  have hnames : ∀ i j, i ≠ j → (apart i).username ≠ (apart j).username := by decide
  have hchecked := (usernamesChecked_iff apart Firebase.empty fun _ _ _ hp => nomatch hp).2
    ⟨fun _ _ hp => (nomatch hp), fun i j hij _ => hnames i j hij⟩
  obtain ⟨a, ha, hi, -⟩ := @Registry.exists_registered_pair _ _ apart Firebase.empty false true _ _
    ⟨rfl, by decide⟩ ⟨rfl, by decide⟩ (by decide)
  have hw := Registry.reachable_iff.2 ⟨a, ha, rfl⟩
  exact ⟨_, hw, Registry.reported_true_iff.2 hi, hchecked _ hw⟩

end InstaGLAM
