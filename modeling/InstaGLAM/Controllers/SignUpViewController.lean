import InstaGLAM.Helpers.ViewControllerExtension

/-!
# Controllers/SignUpViewController — what reaches the backend from the sign-up screen

    three optional texts ──validateFields──▸ registerNewUser ──safeDataBaseKey──▸ child

`didTapRegisterBtn_spec` follows a tap on Sign Up all the way: which texts get through, which alert
the others raise, and why the key of an email that got through is always a child of the root.  What
is never checked is the length of the username, so `longUsername` gets through and then raises.
-/

namespace InstaGLAM

open Callback Regex

/-- The errors of the sign-up form. -/
inductive SignupError where
  | missingUsername | missingEmail | invalidEmail | missingPassword | invalidPassword
  deriving DecidableEq

namespace SignUpViewController

/-- The two texts of the alert each `catch` shows. -/
def alertOf : SignupError → String × String
  | .missingUsername => ("Username Empty", "You need a username to create an account.")
  | .missingEmail => ("Email Empty", "You need an email to create an account.")
  | .invalidEmail => ("Invalid Email", "Please, enter in a valid email.")
  | .missingPassword => ("Password Empty", "Please enter in your password.")
  | .invalidPassword => ("Invalid Password",
    "Your password must be alphanumeric and it must be greater than or equal to 8 characters.")

/-- What the closure given to `registerNewUser` does with `registered`: both branches are empty. -/
def didRegister (registered : Bool) : ScreenCode := if registered then .done else .done

/-- `registerNewUser()` -/
def registerNewUser : Option SwiftString → Option SwiftString → Option SwiftString → ScreenCode
  | some username, some email, some password =>
    AuthManager.registerNewUser username email password didRegister
  | _, _, _ => .done

/-- `didTapLoginBtn()`, the button "Already have an account? Log in". -/
def didTapLoginBtn (id : ℕ) : ScreenCode := .emit (.dismiss (.signUp id)) .done

variable [DecimalDigits]

/-- `validateFields()`, on the texts of the three fields; the second check reads the username
again. -/
def validateFields (usernameText emailText passwordText : Option SwiftString) :
    Except SignupError Unit := do
  let some username := usernameText | return
  let some email := emailText | return
  let some password := passwordText | return
  if username.isEmpty || username == [] then
    throw .missingUsername
  if email.isEmpty || username == [] then
    throw .missingEmail
  if !isValidEmail email then
    throw .invalidEmail
  if password.isEmpty || password == [] then
    throw .missingPassword
  if !isValidPassword password then
    throw .invalidPassword

/-- `didTapRegisterBtn()`; the last `catch` is never reached. -/
def didTapRegisterBtn (id : ℕ) (usernameText emailText passwordText : Option SwiftString) :
    ScreenCode :=
  match validateFields usernameText emailText passwordText with
  | .ok _ => registerNewUser usernameText emailText passwordText
  | .error e => showAlert (some (.signUp id)) (alertOf e).1 (alertOf e).2

/-! ## The rules of the form

The specification: five rules in order, and the first one that is broken decides. -/

/-- The rule an error is raised for is broken. -/
def violated (username email password : SwiftString) : SignupError → Bool
  | .missingUsername => username.isEmpty
  | .missingEmail => email.isEmpty
  | .invalidEmail => !isValidEmail email
  | .missingPassword => password.isEmpty
  | .invalidPassword => !isValidPassword password

/-- The rules, in the order they are to be checked. -/
def rules : List SignupError :=
  [.missingUsername, .missingEmail, .invalidEmail, .missingPassword, .invalidPassword]

/-- **The first broken rule decides**, although one check reads the wrong field: it only runs when
the username is not empty. -/
theorem validateFields_some (username email password : SwiftString) :
    validateFields (some username) (some email) (some password) =
      match rules.find? (violated username email password) with
      | none => .ok ()
      | some e => .error e := by
  have hempty : ∀ s : SwiftString, (s.isEmpty || s == []) = s.isEmpty := fun s => by cases s <;> rfl
  simp only [validateFields, hempty, rules, List.find?_cons, violated, List.find?_nil]
  cases hu : username.isEmpty
  · have hne : (username == []) = false := by cases username <;> simp_all
    rw [hne, Bool.or_false]
    cases email.isEmpty <;> cases isValidEmail email <;> cases password.isEmpty <;>
      cases isValidPassword password <;> rfl
  · rfl

/-- The texts a tap on Sign Up lets through. -/
def Accepted (usernameText emailText passwordText : Option SwiftString) : Prop :=
  ∃ username email password, usernameText = some username ∧ emailText = some email ∧
    passwordText = some password ∧ username ≠ [] ∧ isValidEmail email = true ∧
      isValidPassword password = true

theorem isValidPassword_nil : isValidPassword [] = false := rfl

theorem find?_violated_eq_none {username email password : SwiftString} :
    rules.find? (violated username email password) = none ↔
      username ≠ [] ∧ isValidEmail email = true ∧ isValidPassword password = true := by
  simp only [rules, List.find?_eq_none, List.forall_mem_cons, violated, List.isEmpty_iff,
    Bool.not_eq_true', Bool.not_eq_false, List.not_mem_nil, false_implies, implies_true, and_true]
  constructor
  · rintro ⟨hu, -, he, -, hp⟩
    exact ⟨hu, he, hp⟩
  · rintro ⟨hu, he, hp⟩
    refine ⟨hu, ne_nil_of_isValidEmail he, he, ?_, hp⟩
    rintro rfl
    simp [isValidPassword_nil] at hp

/-! ## A tap on Sign Up -/

/-- Texts that are all there: one alert for the first broken rule, or the call. -/
theorem didTapRegisterBtn_some (id : ℕ) (username email password : SwiftString) :
    didTapRegisterBtn id (some username) (some email) (some password) =
      match rules.find? (violated username email password) with
      | none => AuthManager.registerNewUser username email password didRegister
      | some e => showAlert (some (.signUp id)) (alertOf e).1 (alertOf e).2 := by
  rw [didTapRegisterBtn, validateFields_some]
  cases rules.find? (violated username email password) <;> rfl

/-- A missing text: nothing at all happens. -/
theorem didTapRegisterBtn_none (id : ℕ) {u e p : Option SwiftString}
    (h : u = none ∨ e = none ∨ p = none) : didTapRegisterBtn id u e p = .done := by
  rcases h with rfl | rfl | rfl
  · rfl
  · cases u <;> rfl
  · cases u <;> cases e <;> rfl

/-- All a tap can do: call the backend, show an alert, or nothing. -/
theorem didTapRegisterBtn_cases (id : ℕ) (u e p : Option SwiftString) :
    (∃ username email password, u = some username ∧ e = some email ∧ p = some password ∧
        didTapRegisterBtn id u e p =
          .request (.createUser email password)
            (AuthManager.didCreateUser username email didRegister) .done) ∨
      (∃ title message, didTapRegisterBtn id u e p = showAlert (some (.signUp id)) title message) ∨
        didTapRegisterBtn id u e p = .done := by
  rcases u with - | username
  · exact Or.inr (Or.inr rfl)
  rcases e with - | email
  · exact Or.inr (Or.inr rfl)
  rcases p with - | password
  · exact Or.inr (Or.inr rfl)
  rw [didTapRegisterBtn_some]
  cases rules.find? (violated username email password) with
  | none => exact Or.inl ⟨_, _, _, rfl, rfl, rfl, rfl⟩
  | some err => exact Or.inr (Or.inl ⟨_, _, rfl⟩)

/-- The alert of each rule, when it is the first broken one; each is all that the tap does. -/
structure OneAlert (id : ℕ) (username email password : SwiftString) (tap : ScreenCode) : Prop where
  missingUsername : username = [] →
    tap = .emit (.showAlert (some (.signUp id)) "Username Empty"
      "You need a username to create an account.") .done
  missingEmail : username ≠ [] → email = [] →
    tap = .emit (.showAlert (some (.signUp id)) "Email Empty"
      "You need an email to create an account.") .done
  invalidEmail : username ≠ [] → email ≠ [] → isValidEmail email = false →
    tap = .emit (.showAlert (some (.signUp id)) "Invalid Email"
      "Please, enter in a valid email.") .done
  missingPassword : username ≠ [] → isValidEmail email = true → password = [] →
    tap = .emit (.showAlert (some (.signUp id)) "Password Empty"
      "Please enter in your password.") .done
  invalidPassword : username ≠ [] → isValidEmail email = true → password ≠ [] →
    isValidPassword password = false →
      tap = .emit (.showAlert (some (.signUp id)) "Invalid Password" ("Your password must be " ++
        "alphanumeric and it must be greater than or equal to 8 characters.")) .done

/-- **The first broken rule has its alert, and nothing else happens.** -/
theorem oneAlert_didTapRegisterBtn (id : ℕ) (username email password : SwiftString) :
    OneAlert id username email password
      (didTapRegisterBtn id (some username) (some email) (some password)) := by
  rw [didTapRegisterBtn_some]
  refine ⟨fun hu => ?_, fun hu he => ?_, fun hu he hi => ?_, fun hu hi hp => ?_,
    fun hu hi hp hv => ?_⟩
  · subst hu
    rfl
  · have hfind : rules.find? (violated username email password) = some .missingEmail := by
      simp [rules, violated, hu, he]
    rw [hfind]
    rfl
  · have hfind : rules.find? (violated username email password) = some .invalidEmail := by
      simp [rules, violated, hu, he, hi]
    rw [hfind]
    rfl
  · have hfind : rules.find? (violated username email password) = some .missingPassword := by
      simp [rules, violated, hu, hi, ne_nil_of_isValidEmail hi, hp]
    rw [hfind]
    rfl
  · have hfind : rules.find? (violated username email password) = some .invalidPassword := by
      simp [rules, violated, hu, hi, ne_nil_of_isValidEmail hi, hp, hv]
    rw [hfind]
    rfl

/-- What the backend is told about an email: a key that names one child of the root.  Only a
username that is too long for the database makes the database call raise. -/
structure KeyOf (email key : SwiftString) : Prop where
  insert : ∀ username (completion : Bool → ScreenCode),
    DatabaseManager.insertNewUser email username completion =
      if utf8Length username ≤ 10485760 then
        .request (.setValue [key] ⟨username⟩) (DatabaseManager.didSetValue completion) .done
      else .raise
  child : child key = some [key]
  ne_nil : key ≠ []
  length : key.length = email.length
  image : key = email.map keyChar
  anyOrder : ∀ order : List Char, order.Perm replaced →
    order.foldl (fun s c => replacingOccurrences s c '-') email = key
  allowed : ∀ c ∈ ['.', '#', '$', '[', ']', '/'], c ∉ key

omit [DecimalDigits] in
/-- **An accepted email has such a key.** -/
theorem keyOf_of_isValidEmail {email : SwiftString} (h : isValidEmail email = true) :
    KeyOf email (safeDataBaseKey email) where
  insert username completion := by
    rw [DatabaseManager.insertNewUser_eq, ← path_of_isValidEmail h]
    exact if_congr (DatabaseManager.canInsert_iff_of_isValidEmail h username) rfl rfl
  child := child_of_isValidEmail h
  ne_nil := by
    rw [← List.length_pos_iff, length_safeDataBaseKey, List.length_pos_iff]
    exact ne_nil_of_isValidEmail h
  length := length_safeDataBaseKey email
  image := safeDataBaseKey_eq_map email
  anyOrder order ho := (foldl_perm_replaced ho email).trans (safeDataBaseKey_eq_map email).symm
  allowed c hc := by
    by_cases hslash : c = '/'
    · rw [hslash]
      exact not_slash_mem_safeDataBaseKey h
    · refine not_mem_safeDataBaseKey ?_ email
      simp only [replaced, List.mem_cons, List.not_mem_nil, or_false] at hc ⊢
      tauto

theorem accepted_some_iff {username email password : SwiftString} :
    Accepted (some username) (some email) (some password) ↔
      rules.find? (violated username email password) = none := by
  rw [find?_violated_eq_none]
  constructor
  · rintro ⟨_, _, _, ⟨⟩, ⟨⟩, ⟨⟩, h⟩
    exact h
  · exact fun h => ⟨_, _, _, rfl, rfl, rfl, h⟩

theorem didTapRegisterBtn_of_accepted (id : ℕ) {username email password : SwiftString}
    (h : Accepted (some username) (some email) (some password)) :
    didTapRegisterBtn id (some username) (some email) (some password) =
      AuthManager.registerNewUser username email password didRegister := by
  rw [didTapRegisterBtn_some, accepted_some_iff.1 h]

/-- Texts that are all there but not accepted raise the alert of the first broken rule. -/
theorem exists_alert_of_not_accepted (id : ℕ) {username email password : SwiftString}
    (h : ¬ Accepted (some username) (some email) (some password)) :
    ∃ err, rules.find? (violated username email password) = some err ∧
      didTapRegisterBtn id (some username) (some email) (some password) =
        showAlert (some (.signUp id)) (alertOf err).1 (alertOf err).2 := by
  rw [accepted_some_iff, ← ne_eq, Option.ne_none_iff_exists'] at h
  obtain ⟨err, herr⟩ := h
  exact ⟨err, herr, by rw [didTapRegisterBtn_some, herr]⟩

theorem asks_of_not_accepted (id : ℕ) {u e p : Option SwiftString} (h : ¬ Accepted u e p) :
    (didTapRegisterBtn id u e p).asks = false := by
  by_cases hnone : u = none ∨ e = none ∨ p = none
  · rw [didTapRegisterBtn_none id hnone]
    rfl
  · simp only [not_or, ← ne_eq, Option.ne_none_iff_exists'] at hnone
    obtain ⟨⟨username, rfl⟩, ⟨email, rfl⟩, ⟨password, rfl⟩⟩ := hnone
    obtain ⟨err, -, htap⟩ := exists_alert_of_not_accepted id h
    rw [htap]
    rfl

/-- **A tap on Sign Up**: the backend is called exactly for accepted texts; otherwise nothing is
asked of it, and three texts that are there raise one alert, that of the first broken rule.  The key
of an accepted email never makes the database call throw; a username of more than 10 MiB does. -/
theorem didTapRegisterBtn_spec (id : ℕ) (u e p : Option SwiftString) :
    ((∃ username email password completion, didTapRegisterBtn id u e p =
        AuthManager.registerNewUser username email password completion) ↔ Accepted u e p) ∧
      (∀ username email password, u = some username → e = some email → p = some password →
        Accepted u e p → didTapRegisterBtn id u e p =
          AuthManager.registerNewUser username email password didRegister) ∧
      (¬ Accepted u e p → (didTapRegisterBtn id u e p).asks = false) ∧
      (∀ username email password, u = some username → e = some email → p = some password →
        OneAlert id username email password (didTapRegisterBtn id u e p)) ∧
      ∀ email, e = some email → Accepted u e p → KeyOf email (safeDataBaseKey email) := by
  refine ⟨⟨?_, ?_⟩, ?_, asks_of_not_accepted id, ?_, ?_⟩
  · rintro ⟨username, email, password, completion, htap⟩
    by_contra h
    have hasks := asks_of_not_accepted id h
    rw [htap, AuthManager.registerNewUser_eq] at hasks
    exact absurd hasks Bool.noConfusion
  · intro h
    have hsome := h
    obtain ⟨_, _, _, rfl, rfl, rfl, -⟩ := hsome
    exact ⟨_, _, _, _, didTapRegisterBtn_of_accepted id h⟩
  · rintro _ _ _ rfl rfl rfl h
    exact didTapRegisterBtn_of_accepted id h
  · rintro _ _ _ rfl rfl rfl
    exact oneAlert_didTapRegisterBtn id ..
  · rintro _ rfl ⟨_, _, _, -, ⟨⟩, -, -, hvalid, -⟩
    exact keyOf_of_isValidEmail hvalid

/-- One byte more than the database takes. -/
def longUsername : SwiftString := List.replicate (kFirebaseMaxLeafSize + 1) 'a'

omit [DecimalDigits] in
/-- **Such a username gets through the form, and then crashes the database call.** -/
theorem longUsername_crashes :
    @didTapRegisterBtn asciiDigits 0 (some longUsername) (some "a@b.co".toList)
        (some "passw0rd".toList) =
      .request (.createUser "a@b.co".toList "passw0rd".toList)
        (AuthManager.didCreateUser longUsername "a@b.co".toList didRegister) .done ∧
      AuthManager.didCreateUser longUsername "a@b.co".toList didRegister .success = .raise := by
  have hne : longUsername ≠ [] := by
    rw [longUsername, List.replicate_succ]
    exact List.cons_ne_nil _ _
  have hlong : ¬ utf8Length longUsername ≤ kFirebaseMaxLeafSize := by
    rw [longUsername, utf8Length_replicate, show 'a'.utf8Size = 1 from rfl]
    omega
  constructor
  · rw [@didTapRegisterBtn_of_accepted asciiDigits]
    · rfl
    · exact ⟨_, _, _, rfl, rfl, rfl, hne, by decide, by decide⟩
  · rw [AuthManager.didCreateUser_of_ok rfl, DatabaseManager.insertNewUser_of_not]
    exact fun h => hlong (of_decide_eq_true h.2)

end SignUpViewController

end InstaGLAM
