import InstaGLAM.FirebaseManager.Registry

/-!
# FirebaseManager/Registration — the record a registration leaves under its key

    createUser e ──one account per email──▸ setValue (key e) ──one record per key──▸ …

Registrations race on two stores.  The Auth store lets one call through for each email
(`Registry.OneEach`), but the record goes to the key, and several emails can have one key.
`recordsHeld_iff` says exactly when every registered call still finds its own record.
-/

namespace InstaGLAM

open Callback Regex

variable {ι κ : Type*} {calls : ι → Registration κ} {fb : Firebase κ}

/-- Stores with nothing in them. -/
def Firebase.empty : Firebase κ := ⟨fun _ => none, fun _ => none, fun _ => none⟩

/-- The email is free and the record can be inserted, so the registration may get as far as writing
it. -/
def Registration.CanWrite (r : Registration κ) (fb : Firebase κ) : Prop :=
  fb.accounts r.email = none ∧ r.CanInsert

namespace Registry

variable {a a' : Registry ι κ} {i j : ι}

/-- Call `i` has created its account: it waits for `setValue` or has been through it. -/
def Created (a : Registry ι κ) (i : ι) : Prop :=
  a.phase i = some .inserting ∨ a.phase i = some .registered ∨ a.phase i = some .rejected

variable [DecidableEq ι]

/-! ## One account, one call

A call that has created its account is the only one that ever does so for that email. -/

/-- Every call that has created its account and goes on finds it in the store with its own password,
no other call has created one for the same email, and its record can be inserted. -/
structure OneEach (calls : ι → Registration κ) (a : Registry ι κ) : Prop where
  held : ∀ i, a.Created i → a.store.accounts (calls i).email = some (calls i).password
  only : ∀ i j, a.Created i → a.Created j → (calls i).email = (calls j).email → i = j
  able : ∀ i, a.Created i → (calls i).CanInsert

/-- A move that leaves the accounts alone and creates none keeps both. -/
theorem OneEach.move {p : Phase} {fb' : Firebase κ} (h : OneEach calls a)
    (hacc : fb'.accounts = a.store.accounts) (hi : (a.move i p fb').Created i → a.Created i) :
    OneEach calls (a.move i p fb') := by
  have hback : ∀ j, (a.move i p fb').Created j → a.Created j := by
    intro j hj
    by_cases hji : j = i
    · subst hji
      exact hi hj
    · simpa only [Created, move_phase_of_ne hji] using hj
  refine ⟨fun j hj => ?_, fun j k hj hk => h.only j k (hback j hj) (hback k hk),
    fun j hj => h.able j (hback j hj)⟩
  rw [move_store, hacc]
  exact h.held j (hback j hj)

variable [DecidableEq κ]

/-- Creating the account of a free email keeps both. -/
theorem OneEach.createAccount {p : Phase} (h : OneEach calls a)
    (hfree : a.store.accounts (calls i).email = none)
    (hable : ∀ fb', (a.move i p fb').Created i → (calls i).CanInsert) :
    OneEach calls (a.move i p (a.store.createAccount (calls i).client (calls i).email
      (calls i).password)) := by
  generalize hfb : a.store.createAccount (calls i).client (calls i).email (calls i).password = fb'
  have hback : ∀ j, j ≠ i → (a.move i p fb').Created j → a.Created j := by
    intro j hj hc
    simpa only [Created, move_phase_of_ne hj] using hc
  have hemail : ∀ j, j ≠ i → (a.move i p fb').Created j → (calls j).email ≠ (calls i).email := by
    intro j hj hc he
    have hheld := h.held j (hback j hj hc)
    rw [he, hfree] at hheld
    exact nomatch hheld
  subst hfb
  refine ⟨fun j hj => ?_, fun j k hj hk he => ?_, fun j hj => ?_⟩
  · by_cases hji : j = i
    · subst hji
      simp
    · rw [move_store, Firebase.createAccount_accounts_of_ne (hemail j hji hj)]
      exact h.held j (hback j hji hj)
  · by_cases hji : j = i
    · by_cases hki : k = i
      · rw [hji, hki]
      · exact absurd (hji ▸ he).symm (hemail k hki hk)
    · by_cases hki : k = i
      · exact absurd (hki ▸ he) (hemail j hji hj)
      · exact h.only j k (hback j hji hj) (hback k hki hk) he
  · by_cases hji : j = i
    · exact hji ▸ hable _ (hji ▸ hj)
    · exact h.able j (hback j hji hj)

theorem OneEach.step (h : OneEach calls a) (hs : Step calls a a') : OneEach calls a' := by
  cases hs with
  | launch hp => exact h.move rfl fun hc => absurd hc (by simp [Created])
  | refuse hp => exact h.move rfl fun hc => absurd hc (by simp [Created])
  | create hp hfree hcan => exact h.createAccount hfree fun _ _ => hcan
  | trap hp hfree hcan => exact h.createAccount hfree fun _ hc => by simp [Created] at hc
  | insert hp => exact h.move rfl fun _ => Or.inl hp
  | reject hp => exact h.move rfl fun _ => Or.inl hp

omit [DecidableEq ι] [DecidableEq κ] in
theorem OneEach.initial (fb : Firebase κ) : OneEach calls (initial fb) :=
  ⟨fun i hi => by simp [Created, Registry.initial] at hi,
    fun i j hi => by simp [Created, Registry.initial] at hi,
    fun i hi => by simp [Created, Registry.initial] at hi⟩

/-! ## Registrations that go through -/

/-- A fresh call that can write can be run to its end with nothing in between. -/
theorem Reached.register (h : Reached calls fb a) (hi : a.phase i = none)
    (hw : (calls i).CanWrite a.store) :
    Reached calls fb ⟨(a.store.createAccount (calls i).client (calls i).email
      (calls i).password).setRecord (calls i).path (calls i).record,
      Function.update a.phase i (some .registered)⟩ := by
  have hcreated := (h.tail (.launch hi)).tail (.create (move_phase_self ..) hw.1 hw.2)
  refine (hcreated.tail (.insert (move_phase_self ..))).trans ?_
  simp only [move, Function.update_idem]
  exact .refl

/-- One call by itself. -/
theorem exists_registered (hi : (calls i).CanWrite fb) :
    ∃ a, Reached calls fb a ∧ a.phase i = some .registered ∧
      a.store = (fb.createAccount (calls i).client (calls i).email (calls i).password).setRecord
        (calls i).path (calls i).record := by
  have hstart : Reached calls fb (initial fb) := .refl
  exact ⟨_, hstart.register (i := i) rfl hi, Function.update_self .., rfl⟩

/-- Two calls with different emails can be run one after the other: both have registered, and the
records are those of the start with the first and then the second written over them. -/
theorem exists_registered_pair (hi : (calls i).CanWrite fb) (hj : (calls j).CanWrite fb)
    (hne : (calls i).email ≠ (calls j).email) :
    ∃ a, Reached calls fb a ∧ a.phase i = some .registered ∧
      a.store.records (calls j).path = some (calls j).record ∧
      (overwritten (calls j).path (calls j).record (calls i).path = none →
        a.store.records (calls i).path = some (calls i).record) := by
  have hji : j ≠ i := fun e => hne (e ▸ rfl)
  have hstart : Reached calls fb (initial fb) := .refl
  have hrun := (hstart.register (i := i) rfl hi).register (i := j) (Function.update_of_ne hji ..)
    ⟨(Function.update_of_ne hne.symm ..).trans hj.1, hj.2⟩
  refine ⟨_, hrun, ?_, Firebase.setRecord_records_self .., fun hpath => ?_⟩
  · exact (Function.update_of_ne hji.symm ..).trans (Function.update_self ..)
  · exact (Firebase.setRecord_records_of_none hpath).trans (Firebase.setRecord_records_self ..)

/-! ## The record under the key of a registered email

Writes to different children of the root do not reach each other, so a record is lost exactly when
another call with the same path and another username gets that far. -/

/-- Each registered call finds its own record where it put it. -/
def Held (calls : ι → Registration κ) (a : Registry ι κ) : Prop :=
  ∀ i, a.phase i = some .registered → a.store.records (calls i).path = some (calls i).record

omit [DecidableEq κ] in
/-- A move that leaves the records alone and registers nobody. -/
theorem Held.move {p : Phase} {fb' : Firebase κ} (h : Held calls a)
    (hrec : fb'.records = a.store.records) (hp : p ≠ .registered) :
    Held calls (a.move i p fb') := by
  intro j hj
  rw [move_store, hrec]
  by_cases hji : j = i
  · subst hji
    rw [move_phase_self] at hj
    exact absurd (Option.some.inj hj) hp
  · rw [move_phase_of_ne hji] at hj
    exact h j hj

/-- Calls that get to write do not write over each other's records, unless they write the same. -/
def Apart (calls : ι → Registration κ) : Prop :=
  ∀ i j, (calls i).email ≠ (calls j).email → (calls i).CanInsert → (calls j).CanInsert →
    (calls i).path = (calls j).path ∧ (calls i).record = (calls j).record ∨
      overwritten (calls j).path (calls j).record (calls i).path = none

/-- **What one step keeps**, when the calls are apart. -/
theorem Held.step (honce : OneEach calls a) (h : Held calls a) (hapart : Apart calls)
    (hs : Step calls a a') : Held calls a' := by
  cases hs with
  | launch hp => exact h.move rfl (by simp)
  | refuse hp => exact h.move rfl (by simp)
  | create hp hfree hcan => exact h.move rfl (by simp)
  | trap hp hfree hcan => exact h.move rfl (by simp)
  | reject hp => exact h.move rfl (by simp)
  | @insert i hp =>
    intro j hj
    rw [move_store]
    by_cases hji : j = i
    · rw [hji, Firebase.setRecord_records_self]
    · rw [move_phase_of_ne hji] at hj
      have hcj : a.Created j := Or.inr (Or.inl hj)
      have hci : a.Created i := Or.inl hp
      have hemail : (calls j).email ≠ (calls i).email := fun he => hji (honce.only j i hcj hci he)
      rcases hapart j i hemail (honce.able j hcj) (honce.able i hci) with ⟨hpath, hrec⟩ | hnone
      · rw [hpath, hrec, Firebase.setRecord_records_self]
      · rw [Firebase.setRecord_records_of_none hnone]
        exact h j hj

theorem Reached.oneEach (h : Reached calls fb a) : OneEach calls a :=
  h.invariant (OneEach.initial fb) fun _ _ ih hs => ih.step hs

/-- **What a run keeps.** -/
theorem Reached.held (h : Reached calls fb a) (hapart : Apart calls) : Held calls a := by
  refine (h.invariant (I := fun a => OneEach calls a ∧ Held calls a)
    ⟨OneEach.initial fb, fun i hi => ?_⟩ fun _ _ ih hs => ?_).2
  · simp [initial] at hi
  · exact ⟨ih.1.step hs, ih.2.step ih.1 hapart hs⟩

end Registry

/-- The record stored at the key of each registered email is the one its own call wrote. -/
def RecordsHeld (calls : ι → Registration κ)
    (w : World ι Request Reply Bool (Registration κ) (Firebase κ)) : Prop :=
  ∀ i, Reported w i true →
    w.store.records [safeDataBaseKey (calls i).email] = some ⟨(calls i).username⟩

section Held

variable [DecidableEq ι] [DecidableEq κ]

omit [DecidableEq ι] [DecidableEq κ] in
theorem path_eq_iff (hvalid : ∀ i, isValidEmail (calls i).email = true) (i j : ι) :
    (calls i).path = (calls j).path ↔ SameKey (calls i).email (calls j).email := by
  rw [Registration.path_of_isValidEmail (hvalid i), Registration.path_of_isValidEmail (hvalid j),
    List.singleton_inj, safeDataBaseKey_eq_iff]

omit [DecidableEq ι] [DecidableEq κ] in
theorem recordsHeld_toWorld (hvalid : ∀ i, isValidEmail (calls i).email = true)
    {a : Registry ι κ} : RecordsHeld calls (a.toWorld calls) ↔ a.Held calls := by
  simp only [RecordsHeld, Registry.Held, Registry.reported_true_iff,
    Registration.path_of_isValidEmail (hvalid _)]
  rfl

omit [DecidableEq ι] [DecidableEq κ] in
/-- Accepted emails with different keys have paths that do not reach each other. -/
theorem apart_of_sameUsername (hvalid : ∀ i, isValidEmail (calls i).email = true)
    (h : ∀ i j, isValidLeafValue (calls i).username = true →
      isValidLeafValue (calls j).username = true → (calls i).email ≠ (calls j).email →
        SameKey (calls i).email (calls j).email → (calls i).username = (calls j).username) :
    Registry.Apart calls := by
  intro i j hne hi hj
  by_cases hkey : SameKey (calls i).email (calls j).email
  · exact Or.inl
      ⟨(path_eq_iff hvalid i j).2 hkey, congrArg UserRecord.mk (h i j hi.2 hj.2 hne hkey)⟩
  · refine Or.inr ?_
    rw [Registration.path_of_isValidEmail (hvalid i), Registration.path_of_isValidEmail (hvalid j)]
    exact overwritten_singleton (fun heq => hkey (safeDataBaseKey_eq_iff.1 heq)) _

/-- One path for two accepted emails: whoever registers second writes over the first. -/
theorem exists_overwritten (hvalid : ∀ i, isValidEmail (calls i).email = true) {i j : ι}
    (hi : isValidLeafValue (calls i).username = true)
    (hj : isValidLeafValue (calls j).username = true) (hne : (calls i).email ≠ (calls j).email)
    (hkey : SameKey (calls i).email (calls j).email)
    (hname : (calls i).username ≠ (calls j).username) :
    ∃ w, Reachable (registrationSystem calls) (World.initial Firebase.empty) w ∧
      ¬ RecordsHeld calls w := by
  obtain ⟨a, ha, hri, hrj, -⟩ := @Registry.exists_registered_pair _ _ calls Firebase.empty i j _ _
    ⟨rfl, ne_nil_of_isValidEmail (hvalid i), hi⟩ ⟨rfl, ne_nil_of_isValidEmail (hvalid j), hj⟩ hne
  refine ⟨_, Registry.reachable_iff.2 ⟨a, ha, rfl⟩, fun hheld => hname ?_⟩
  have hrec := (recordsHeld_toWorld hvalid).1 hheld i hri
  rw [(path_eq_iff hvalid i j).2 hkey, hrj] at hrec
  exact (congrArg UserRecord.username (Option.some.inj hrec)).symm

/-- **Registered records stay as they were written, in every run, exactly when calls whose emails
differ but share a key register one username**; a username the database has no room for does not
count, since its call raises before it writes. -/
theorem recordsHeld_iff (calls : ι → Registration κ)
    (hvalid : ∀ i, isValidEmail (calls i).email = true) :
    (∀ fb w, Reachable (registrationSystem calls) (World.initial fb) w → RecordsHeld calls w) ↔
      ∀ i j, isValidLeafValue (calls i).username = true →
        isValidLeafValue (calls j).username = true → (calls i).email ≠ (calls j).email →
          SameKey (calls i).email (calls j).email → (calls i).username = (calls j).username := by
  constructor
  · intro h i j hi hj hne hkey
    by_contra hname
    obtain ⟨w, hw, hbad⟩ := exists_overwritten hvalid hi hj hne hkey hname
    exact hbad (h _ w hw)
  · intro h fb w hw
    obtain ⟨a, ha, rfl⟩ := Registry.reachable_iff.1 hw
    exact (recordsHeld_toWorld hvalid).2 (ha.held (apart_of_sameUsername hvalid h))

end Held

/-- Two emails that differ in one replaced character, for two usernames. -/
def clash : Bool → Registration Unit
  | false => ⟨(), "ruth".toList, "a.b@c.co".toList, "passw0rd".toList⟩
  | true => ⟨(), "emar".toList, "a-b@c.co".toList, "passw0rd".toList⟩

/-- Ruth's record is gone once Emar has registered. -/
theorem clash_overwrites : (∀ i, isValidEmail (clash i).email = true) ∧
    ∃ w, Reachable (registrationSystem clash) (World.initial Firebase.empty) w ∧
      ¬ RecordsHeld clash w := by
  have hvalid : ∀ i, isValidEmail (clash i).email = true := by decide
  have hkey : safeDataBaseKey (clash false).email = safeDataBaseKey (clash true).email := by decide
  exact ⟨hvalid, exists_overwritten (i := false) (j := true) hvalid (by decide) (by decide)
    (by decide) (safeDataBaseKey_eq_iff.1 hkey) (by decide)⟩

/-- Two emails of different lengths, for two usernames. -/
def apart : Bool → Registration Unit
  | false => ⟨(), "ruth".toList, "ruth@c.co".toList, "passw0rd".toList⟩
  | true => ⟨(), "emar".toList, "emar1@c.co".toList, "passw0rd".toList⟩

/-- Both are registered, and their records are there. -/
theorem apart_held : ∃ w,
    Reachable (registrationSystem apart) (World.initial Firebase.empty) w ∧
      Reported w false true ∧ RecordsHeld apart w := by
  have hagree : ∀ i j, (apart i).email ≠ (apart j).email →
      SameKey (apart i).email (apart j).email → (apart i).username = (apart j).username := by
    intro i j _ hkey
    have hlen := List.Forall₂.length_eq hkey
    cases i <;> cases j <;> first | rfl | exact absurd hlen (by decide)
  obtain ⟨a, ha, hi, -⟩ := @Registry.exists_registered_pair _ _ apart Firebase.empty false true _ _
    ⟨rfl, by decide⟩ ⟨rfl, by decide⟩ (by decide)
  have hw := Registry.reachable_iff.2 ⟨a, ha, rfl⟩
  exact ⟨_, hw, Registry.reported_true_iff.2 hi,
    (recordsHeld_iff apart (by decide)).2 (fun i j _ _ => hagree i j) _ _ hw⟩

end InstaGLAM
