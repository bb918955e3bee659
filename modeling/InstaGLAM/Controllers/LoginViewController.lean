import InstaGLAM.Controllers.SignUpViewController
import InstaGLAM.FirebaseManager.Usernames

/-!
# Controllers/LoginViewController — logging in, by email and by username

The field reads "Username or Email", and its text goes to `loginUser` twice, as the username and as
the email.  `loginUser` tries the email first, so a username is looked up as an email and refused:
`usernameLogin_agrees_iff` says that the two ways in disagree on every registered account that can
be logged in to at all, although both refuse a wrong password (`wrongPassword_fails`).
-/

namespace InstaGLAM

open Callback

/-- The errors of the login form. -/
inductive LoginError where
  | missingUsernameOrEmail | missingPassword
  deriving DecidableEq

namespace LoginViewController

/-- The two texts of the alert each `catch` shows. -/
def alertOf : LoginError → String × String
  | .missingUsernameOrEmail =>
    ("Username or Email", "Please, enter your username or email to login")
  | .missingPassword => ("Password", "Please, enter your password to login")

/-- `validateTextFields()` -/
def validateTextFields (usernameOrEmailText passwordText : Option SwiftString) :
    Except LoginError Unit := do
  let some usernameOrEmail := usernameOrEmailText | return
  let some password := passwordText | return
  if usernameOrEmail.isEmpty || usernameOrEmail == [] then
    throw .missingUsernameOrEmail
  if password.isEmpty || password == [] then
    throw .missingPassword

/-- The closure given to `loginUser`. -/
def didLogIn (id : ℕ) (success : Bool) : ScreenCode :=
  if success then .emit (.dismiss (.login id)) .done
  else showAlert (some (.login id)) "Login Unsuccessful" "Incorrect username or password."

/-- `didTapLoginBtn()`; the last `catch` is never reached. -/
def didTapLoginBtn (id : ℕ) (usernameOrEmailText passwordText : Option SwiftString) : ScreenCode :=
  match validateTextFields usernameOrEmailText passwordText with
  | .ok _ =>
    match usernameOrEmailText, passwordText with
    | some usernameOrEmail, some password =>
      AuthManager.loginUser (some usernameOrEmail) (some usernameOrEmail) password (didLogIn id)
    | _, _ => .done
  | .error e => showAlert (some (.login id)) (alertOf e).1 (alertOf e).2

/-- `didTapCreateAccount()` -/
def didTapCreateAccount (id : ℕ) : ScreenCode := .emit (.presentSignUp (.login id)) .done

/-- Two texts that are not empty are submitted, the first of them as an email. -/
theorem didTapLoginBtn_of_ne_nil (id : ℕ) {text password : SwiftString} (ht : text ≠ [])
    (hp : password ≠ []) : didTapLoginBtn id (some text) (some password) =
      .request (.signIn text password) (AuthManager.didSignIn (didLogIn id)) .done := by
  obtain ⟨c, t, rfl⟩ := List.exists_cons_of_ne_nil ht
  obtain ⟨d, q, rfl⟩ := List.exists_cons_of_ne_nil hp
  rfl

/-- All a tap can do: submit the texts, show an alert, or nothing. -/
theorem didTapLoginBtn_cases (id : ℕ) (t p : Option SwiftString) :
    (∃ text password, t = some text ∧ p = some password ∧ didTapLoginBtn id t p =
        .request (.signIn text password) (AuthManager.didSignIn (didLogIn id)) .done) ∨
      (∃ title message, didTapLoginBtn id t p = showAlert (some (.login id)) title message) ∨
        didTapLoginBtn id t p = .done := by
  rcases t with - | text
  · exact Or.inr (Or.inr rfl)
  rcases p with - | password
  · exact Or.inr (Or.inr rfl)
  by_cases ht : text = []
  · subst ht
    exact Or.inr (Or.inl ⟨_, _, rfl⟩)
  by_cases hp : password = []
  · subst hp
    obtain ⟨c, s, rfl⟩ := List.exists_cons_of_ne_nil ht
    exact Or.inr (Or.inl ⟨_, _, rfl⟩)
  exact Or.inl ⟨text, password, rfl, rfl, didTapLoginBtn_of_ne_nil id ht hp⟩

/-! ## A submission with both services up -/

section Submit

variable {κ : Type*} [DecidableEq κ] {c : κ} {fb : Firebase κ} {id : ℕ}
  {text u e p : SwiftString}

/-- Submitting the login screen `id` on client `c`: the stores afterwards, and what the screen
does. -/
def submit (c : κ) (fb : Firebase κ) (id : ℕ) (text password : SwiftString) :
    Firebase κ × List UIEffect :=
  (didTapLoginBtn id (some text) (some password)).settle (Firebase.answer c) (fun _ fb => fb) fb

/-- Client `c` submitting the login screen `id`, with services that may also fail. -/
def submissionSystem (c : κ) (id : ℕ) :
    System Unit Request Reply UIEffect (SwiftString × SwiftString) (Firebase κ) where
  program t := didTapLoginBtn id (some t.1) (some t.2)
  enabled _ _ _ := True
  serve _ := Firebase.Serve c
  perform _ fb := fb

/-- A submission can go that way. -/
theorem exists_submit (c : κ) (fb : Firebase κ) (id : ℕ) (text password : SwiftString) :
    ∃ w, Reachable (submissionSystem c id) (World.initial fb) w ∧
      w.store = (submit c fb id text password).1 ∧
        w.threads () = some ⟨(text, password), [], (submit c fb id text password).2⟩ :=
  Reachable.settle (S := submissionSystem c id) (t := (text, password))
    (fun r fb => Firebase.serve_answer c r fb) .refl rfl trivial

/-- The screen reports success: it goes away. -/
def LoggedIn (id : ℕ) (outcome : Firebase κ × List UIEffect) : Prop :=
  UIEffect.dismiss (.login id) ∈ outcome.2

/-- **Logging in by `u` agrees with logging in by `e`**: the same report and the same signed-in user
with the right password, and two failures with any other. -/
structure Agrees (c : κ) (fb : Firebase κ) (id : ℕ) (u e p : SwiftString) : Prop where
  report : (submit c fb id u p).2 = (submit c fb id e p).2
  user : (submit c fb id u p).1.currentUser c = (submit c fb id e p).1.currentUser c
  wrong : ∀ q, q ≠ p → ¬ LoggedIn id (submit c fb id u q) ∧ ¬ LoggedIn id (submit c fb id e q)

/-- The right password for an email: signed in, and the screen goes away. -/
theorem submit_of_account (ht : text ≠ []) (hp : p ≠ []) (h : fb.accounts text = some p) :
    submit c fb id text p = (fb.setCurrentUser c (some text), [.dismiss (.login id)]) := by
  rw [submit, didTapLoginBtn_of_ne_nil id ht hp]
  simp [Cmd.settle, Firebase.answer, h, AuthManager.didSignIn_eq, Reply.ok, Reply.success, didLogIn]

/-- Anything that is not an account with that password: an alert, and nothing changes. -/
theorem submit_of_no_account (h : fb.accounts text ≠ some p) :
    ∃ title message,
      submit c fb id text p = (fb, [.showAlert (some (.login id)) title message]) := by
  rcases text with - | ⟨d, t⟩
  · exact ⟨_, _, rfl⟩
  · rcases p with - | ⟨b, q⟩
    · exact ⟨_, _, rfl⟩
    · rw [submit, didTapLoginBtn_of_ne_nil id (by simp) (by simp)]
      simp [Cmd.settle, Firebase.answer, h, AuthManager.didSignIn_eq, Reply.ok, Reply.failure,
        didLogIn, showAlert]

theorem not_loggedIn_of_no_account (h : fb.accounts text ≠ some p) :
    ¬ LoggedIn id (submit c fb id text p) := by
  obtain ⟨title, message, hsubmit⟩ := @submit_of_no_account κ _ c fb id text p h
  simp [LoggedIn, hsubmit]

/-- A wrong password is refused both ways, when the username is nobody's email. -/
theorem wrongPassword_fails {q : SwiftString} (hu : fb.accounts u = none)
    (he : fb.accounts e = some p) (hq : q ≠ p) :
    ¬ LoggedIn id (submit c fb id u q) ∧ ¬ LoggedIn id (submit c fb id e q) := by
  refine ⟨not_loggedIn_of_no_account ?_, not_loggedIn_of_no_account ?_⟩
  · simp [hu]
  · simp [he, hq.symm]

/-- **A username that is nobody's email never logs in**, whoever registered with it. -/
theorem not_agrees (hne : e ≠ []) (hp : p ≠ []) (hu : fb.accounts u = none)
    (he : fb.accounts e = some p) : ¬ Agrees c fb id u e p := by
  intro h
  have huser : ¬ LoggedIn id (submit c fb id u p) := not_loggedIn_of_no_account (by simp [hu])
  have hemail : LoggedIn id (submit c fb id e p) := by
    simp [LoggedIn, submit_of_account hne hp he]
  rw [LoggedIn, h.report] at huser
  exact huser hemail

/-- A missing password is asked for, whatever the account. -/
theorem submit_nil (ht : text ≠ []) : submit c fb id text [] =
    (fb, [.showAlert (some (.login id)) "Password" "Please, enter your password to login"]) := by
  obtain ⟨d, t, rfl⟩ := List.exists_cons_of_ne_nil ht
  rfl

/-- An account without a password can be logged in to neither way. -/
theorem agrees_of_nil (hun : u ≠ []) (hne : e ≠ []) (hu : fb.accounts u = none)
    (he : fb.accounts e = some []) : Agrees c fb id u e [] where
  report := by rw [submit_nil hun, submit_nil hne]
  user := by rw [submit_nil hun, submit_nil hne]
  wrong _ hq := wrongPassword_fails hu he hq

/-- Without a username either, it is the username that is asked for. -/
theorem not_agrees_nil (hne : e ≠ []) : ¬ Agrees c fb id [] e [] := by
  intro h
  have hreport := h.report
  rw [submit_nil hne] at hreport
  have halert := List.head_eq_of_cons_eq hreport
  exact absurd (UIEffect.showAlert.inj halert).2.1 (by decide)

/-- **The two ways in agree only on an account without a password.** -/
theorem agrees_iff (hne : e ≠ []) (hu : fb.accounts u = none) (he : fb.accounts e = some p) :
    Agrees c fb id u e p ↔ p = [] ∧ u ≠ [] := by
  constructor
  · intro h
    by_cases hp : p = []
    · subst hp
      refine ⟨rfl, ?_⟩
      rintro rfl
      exact not_agrees_nil hne h
    · exact absurd h (not_agrees hne hp hu he)
  · rintro ⟨rfl, hun⟩
    exact agrees_of_nil hun hne hu he

end Submit

/-! ## After any registrations -/

section Runs

variable {ι κ : Type*} [DecidableEq ι] [DecidableEq κ]

/-- No registered username is the email of an account. -/
def NoUsernameIsEmail (calls : ι → Registration κ)
    (w : World ι Request Reply Bool (Registration κ) (Firebase κ)) : Prop :=
  ∀ i, Reported w i true → w.store.accounts (calls i).username = none

/-- **The two ways in disagree on every registered account that has a password**, in whatever state
the registrations have left the stores; `FIRAuth` itself refuses to make one without
(`Request.refused`). -/
theorem usernameLogin_agrees_iff (calls : ι → Registration κ) {fb : Firebase κ}
    {w : World ι Request Reply Bool (Registration κ) (Firebase κ)}
    (hw : Reachable (registrationSystem calls) (World.initial fb) w)
    (hname : NoUsernameIsEmail calls w) {i : ι} (hi : Reported w i true) (c : κ) (id : ℕ) :
    Agrees c w.store id (calls i).username (calls i).email (calls i).password ↔
      (calls i).password = [] ∧ (calls i).username ≠ [] := by
  have hnone := hname i hi
  obtain ⟨a, ha, rfl⟩ := Registry.reachable_iff.1 hw
  have hcreated : a.Created i := Or.inr (Or.inl (Registry.reported_true_iff.1 hi))
  exact agrees_iff (ha.written.writer i hcreated).2.1 hnone (ha.oneEach.held i hcreated)

end Runs

/-- Ruth, registered on an empty Firebase: her username is nobody's email. -/
theorem exists_ruth_registered : ∃ w,
    Reachable (registrationSystem fun _ : Unit => clash false) (World.initial Firebase.empty) w ∧
      Reported w () true ∧ UsernamesUnique w.store ∧
        NoUsernameIsEmail (fun _ : Unit => clash false) w ∧
          w.store.accounts (clash false).email = some (clash false).password := by
  obtain ⟨a, ha, hphase, hstore⟩ :=
    @Registry.exists_registered _ _ (fun _ : Unit => clash false) Firebase.empty () _ _
      ⟨rfl, by decide⟩
  refine ⟨_, Registry.reachable_iff.2 ⟨a, ha, rfl⟩, Registry.reported_true_iff.2 hphase, ?_,
    fun _ _ => ?_, ha.oneEach.held () (Or.inr (Or.inl hphase))⟩
  · refine ha.usernamesUnique ⟨fun _ _ _ hp => ?_, fun _ _ _ _ _ => ?_⟩ fun _ _ _ hp => ?_
    · exact nomatch hp
    · simp
    · exact nomatch hp
  · have hne : (clash false).username ≠ (clash false).email := by decide
    change a.store.accounts (clash false).username = none
    rw [hstore, Firebase.setRecord_accounts, Firebase.createAccount_accounts_of_ne hne]
    rfl

/-- Ruth cannot log in as "ruth". -/
theorem ruth_not_agrees : ∃ w,
    Reachable (registrationSystem fun _ : Unit => clash false) (World.initial Firebase.empty) w ∧
      Reported w () true ∧ UsernamesUnique w.store ∧
        NoUsernameIsEmail (fun _ : Unit => clash false) w ∧
          ¬ Agrees () w.store 0 "ruth".toList "a.b@c.co".toList "passw0rd".toList := by
  obtain ⟨w, hw, hi, hunique, hname, hacc⟩ := exists_ruth_registered
  exact ⟨w, hw, hi, hunique, hname, not_agrees (by decide) (by decide) (hname () hi) hacc⟩

/-- Nor can she on any other screen. -/
theorem ruth_never_agrees : ∃ w,
    Reachable (registrationSystem fun _ : Unit => clash false) (World.initial Firebase.empty) w ∧
      ∀ id, ¬ Agrees () w.store id (clash false).username (clash false).email
        (clash false).password := by
  obtain ⟨w, hw, hi, -, hname, -⟩ := exists_ruth_registered
  exact ⟨w, hw, fun id h => nomatch ((usernameLogin_agrees_iff _ hw hname hi () id).1 h).1⟩

end LoginViewController

end InstaGLAM
