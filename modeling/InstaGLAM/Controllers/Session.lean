import InstaGLAM.Controllers.LoginViewController

/-!
# Controllers/Session — who is signed in, and whether the login screen is up

    Home appears ──▸ login ──Create Account──▸ sign-up        Settings ──Log Out──▸ login

Home, the two onboarding screens and Settings keep one promise between them: once Home has appeared,
the login screen is up exactly while nobody is signed in.  No one of them sees both sides, and
Firebase's answers come whenever they come.  `inStep_iff_orderly` says which steps break the
promise: somebody gets signed in, and it is not the login screen on top that asked for it.
-/

namespace InstaGLAM

open Callback Presentation Regex

/-! ## The two controllers that present the login screen -/

/-- `handleAuthentication()` -/
def HomeViewController.handleAuthentication : ScreenCode :=
  .call .currentUser fun currentUser => if !currentUser.result then presentLogin else .done

/-- `viewDidAppear(_:)` -/
def HomeViewController.viewDidAppear : ScreenCode := .emit .viewDidAppear handleAuthentication

/-- The closure given to `logout`. -/
def SettingsViewController.didLogOut (loggedOut : Bool) : ScreenCode :=
  if loggedOut then presentLogin
  else showAlert none "Log out unsuccessful" "Unable to log out. Please try again."

/-- "Yes" on the sheet of `didTapLogOut()`. -/
def SettingsViewController.didConfirmLogOut : ScreenCode := AuthManager.logout didLogOut

/-! ## Everything the user can do -/

/-- What the user does; a tap names the screen it is made on and the texts of its fields. -/
inductive UserAction where
  | homeAppears
  | tapLogIn (id : ℕ) (usernameOrEmailText passwordText : Option SwiftString)
  | tapCreateAccount (id : ℕ)
  | tapSignUp (id : ℕ) (usernameText emailText passwordText : Option SwiftString)
  | tapHaveAccount (id : ℕ)
  | tapGotIt (alertText alertMessage : String)
  | confirmLogOut

/-- Only the screen on top can be tapped, and Settings only when nothing is presented. -/
def UserAction.Enabled : UserAction → App → Prop
  | .homeAppears, _ => True
  | .tapLogIn id _ _, s | .tapCreateAccount id, s => s.stack.head? = some (.login id)
  | .tapSignUp id _ _ _, s | .tapHaveAccount id, s => s.stack.head? = some (.signUp id)
  | .tapGotIt alertText alertMessage, s =>
    s.stack.head? = some (.alert alertText alertMessage)
  | .confirmLogOut, s => s.stack = [] ∧ s.appeared = true

section System

variable [DecimalDigits]

/-- The code an action runs. -/
def UserAction.program : UserAction → ScreenCode
  | .homeAppears => HomeViewController.viewDidAppear
  | .tapLogIn id text password => LoginViewController.didTapLoginBtn id text password
  | .tapCreateAccount id => LoginViewController.didTapCreateAccount id
  | .tapSignUp id username email password =>
    SignUpViewController.didTapRegisterBtn id username email password
  | .tapHaveAccount id => SignUpViewController.didTapLoginBtn id
  | .tapGotIt alertText alertMessage => .emit (.dismiss (.alert alertText alertMessage)) .done
  | .confirmLogOut => SettingsViewController.didConfirmLogOut

/-- The app on one device: any actions in any order, each on a thread of its own. -/
def sessionSystem : System ℕ Request Reply UIEffect UserAction App where
  program := UserAction.program
  enabled _ := UserAction.Enabled
  serve _ := App.Serve
  perform := App.perform

end System

/-! ## The promise, and the steps that keep it -/

/-- The screens `presentLogin` presents. -/
def Screen.IsLogin : Screen → Prop
  | .login _ => True
  | .signUp _ | .alert _ _ => False

/-- **In step**: once Home has appeared, the login screen is up exactly while nobody is signed
in. -/
def InStep (s : App) : Prop :=
  s.appeared = true → (Shown Screen.IsLogin s.stack ↔ s.currentUser = none)

/-- No answer is outstanding. -/
def Quiescent (w : World ℕ Request Reply UIEffect UserAction App) : Prop :=
  ∀ i th, w.threads i = some th → th.waiting = []

/-- The step signs somebody in. -/
def SignsIn : Label ℕ Request Reply UserAction → Prop
  | .answer _ (.createUser _ _) a | .answer _ (.signIn _ _) a => a.ok = true
  | _ => False

/-- The login screen the answered request was made on is on top. -/
def AskedOnTop (w : World ℕ Request Reply UIEffect UserAction App) :
    Label ℕ Request Reply UserAction → Prop
  | .answer i (.signIn _ _) _ => ∃ th id text password, w.threads i = some th ∧
    th.origin = .tapLogIn id text password ∧ w.store.stack.head? = some (.login id)
  | _ => False

/-- **The orderly steps**: nobody is signed in while nobody was, except by the login screen on
top. -/
def Orderly (w : World ℕ Request Reply UIEffect UserAction App)
    (l : Label ℕ Request Reply UserAction) : Prop :=
  SignsIn l → w.store.currentUser ≠ none ∨ AskedOnTop w l

/-- The closures an action leaves behind. -/
inductive Awaits : UserAction → Waiting Request Reply UIEffect → Prop
  | signIn {id text password} : Awaits (.tapLogIn id (some text) (some password))
      ⟨.signIn text password, AuthManager.didSignIn (LoginViewController.didLogIn id)⟩
  | createUser {id username email password} :
      Awaits (.tapSignUp id (some username) (some email) (some password))
        ⟨.createUser email password,
          AuthManager.didCreateUser username email SignUpViewController.didRegister⟩
  | setValue {id username email password path value} :
      Awaits (.tapSignUp id username email password)
        ⟨.setValue path value, DatabaseManager.didSetValue SignUpViewController.didRegister⟩

/-! ## What one step does to the screens and the session -/

/-- **What a step can do**: appear, change screens other than the login screen, sign somebody in
with or without a login screen to dismiss, or sign out. -/
inductive Outcome (w : World ℕ Request Reply UIEffect UserAction App) :
    Label ℕ Request Reply UserAction → App → Prop
  | appear {i s'} : s'.appeared = true → s'.currentUser = w.store.currentUser →
      s'.stack = (if w.store.currentUser = none then
        present none (.login w.store.created) w.store.stack else w.store.stack) →
      Outcome w (.launch i .homeAppears) s'
  | idle {l s'} : ¬ SignsIn l → s'.appeared = w.store.appeared →
      s'.currentUser = w.store.currentUser → s'.stack = w.store.stack → Outcome w l s'
  | cover {l s' presenter c} : ¬ SignsIn l → s'.appeared = w.store.appeared →
      s'.currentUser = w.store.currentUser → ¬ Screen.IsLogin c →
      (presenter = none → w.store.appeared = true) →
      s'.stack = present presenter c w.store.stack → Outcome w l s'
  | uncover {l s' c} : ¬ SignsIn l → s'.appeared = w.store.appeared →
      s'.currentUser = w.store.currentUser → ¬ Screen.IsLogin c →
      s'.stack = dismiss c w.store.stack → Outcome w l s'
  | signedUp {i e p a s'} : a.ok = true → s'.appeared = w.store.appeared →
      s'.currentUser ≠ none → s'.stack = w.store.stack →
      Outcome w (.answer i (.createUser e p) a) s'
  | loggedIn {i th id t q e p a s'} : a.ok = true → w.threads i = some th →
      th.origin = .tapLogIn id t q → s'.appeared = w.store.appeared → s'.currentUser ≠ none →
      s'.stack = dismiss (.login id) w.store.stack → Outcome w (.answer i (.signIn e p) a) s'
  | loggedOut {i s' c} : s'.appeared = true → s'.currentUser = none → Screen.IsLogin c →
      s'.stack = [c] → Outcome w (.launch i .confirmLogOut) s'

/-- The login screen sits at the bottom, and nothing is presented before Home has appeared. -/
structure Grounded (s : App) : Prop where
  bottom : OnlyBottom Screen.IsLogin s.stack
  bare : s.appeared = false → s.stack = []

section Outcome

variable {w : World ℕ Request Reply UIEffect UserAction App} {l : Label ℕ Request Reply UserAction}
  {s' : App}

theorem onlyBottom_singleton (c : Screen) : OnlyBottom Screen.IsLogin [c] :=
  fun d hd => by simp at hd

theorem Outcome.grounded (ho : Outcome w l s') (hg : Grounded w.store) : Grounded s' := by
  cases ho with
  | appear happ huser hstack =>
    refine ⟨?_, fun hbare => by simp [happ] at hbare⟩
    rw [hstack]
    split_ifs with hnone
    · by_cases hempty : w.store.stack = []
      · rw [hempty]
        exact onlyBottom_singleton _
      · rw [present_of_covered (by simpa using hempty)]
        exact hg.bottom
    · exact hg.bottom
  | idle hl happ huser hstack =>
    exact ⟨hstack ▸ hg.bottom, fun hbare => hstack.trans (hg.bare (happ ▸ hbare))⟩
  | @cover l s' presenter c hl happ huser hc hbase hstack =>
    refine ⟨hstack ▸ hg.bottom.present hc, fun hbare => ?_⟩
    rw [happ] at hbare
    have hpresenter : w.store.stack.head? ≠ presenter := by
      rw [hg.bare hbare]
      rintro rfl
      simp [hbare] at hbase
    rw [hstack, present_of_covered hpresenter, hg.bare hbare]
  | uncover hl happ huser hc hstack =>
    refine ⟨hstack ▸ hg.bottom.dismiss _, fun hbare => ?_⟩
    rw [hstack, hg.bare (happ ▸ hbare)]
    rfl
  | signedUp hok happ huser hstack =>
    exact ⟨hstack ▸ hg.bottom, fun hbare => hstack.trans (hg.bare (happ ▸ hbare))⟩
  | loggedIn hok hi ht happ huser hstack =>
    refine ⟨hstack ▸ hg.bottom.dismiss _, fun hbare => ?_⟩
    rw [hstack, hg.bare (happ ▸ hbare)]
    rfl
  | loggedOut happ huser hc hstack =>
    exact ⟨hstack ▸ onlyBottom_singleton _, fun hbare => by simp [happ] at hbare⟩

theorem askedOnTop_iff {i : ℕ} {th : Thread Request Reply UIEffect UserAction} {id : ℕ}
    {t q : Option SwiftString} {e p : SwiftString} {a : Reply} (hi : w.threads i = some th)
    (ht : th.origin = .tapLogIn id t q) :
    AskedOnTop w (.answer i (.signIn e p) a) ↔ w.store.stack.head? = some (.login id) := by
  constructor
  · rintro ⟨th', id', _, _, hi', ht', htop⟩
    obtain rfl := Option.some.inj (hi.symm.trans hi')
    obtain ⟨rfl, -, -⟩ := UserAction.tapLogIn.inj (ht.symm.trans ht')
    exact htop
  · exact fun htop => ⟨th, id, t, q, hi, ht, htop⟩

/-- **Exactly the orderly steps keep the promise.** -/
theorem inStep_iff_orderly (hg : Grounded w.store) (happ : w.store.appeared = true)
    (hs : InStep w.store) (ho : Outcome w l s') : InStep s' ↔ Orderly w l := by
  replace hs := hs happ
  cases ho with
  | appear happ' huser hstack =>
    refine iff_of_true (fun _ => ?_) False.elim
    rw [huser, ← hs, hstack]
    split_ifs with hnone
    · obtain ⟨c, hc, -⟩ := hs.2 hnone
      have hne : w.store.stack ≠ [] := List.ne_nil_of_mem hc
      rw [present_of_covered (by simpa using hne)]
    · rfl
  | idle hl happ' huser hstack =>
    refine iff_of_true (fun _ => ?_) fun h => absurd h hl
    rw [hstack, huser, hs]
  | cover hl happ' huser hc hbase hstack =>
    refine iff_of_true (fun _ => ?_) fun h => absurd h hl
    rw [hstack, huser, shown_present_iff hc, hs]
  | uncover hl happ' huser hc hstack =>
    refine iff_of_true (fun _ => ?_) fun h => absurd h hl
    rw [hstack, huser, shown_dismiss_iff hg.bottom (Or.inl hc), hs]
  | signedUp hok happ' huser hstack =>
    simp only [InStep, happ', happ, hstack, hs, huser, Orderly, SignsIn, AskedOnTop, hok]
    tauto
  | @loggedIn i th id t q e p a s' hok hi ht happ' huser hstack =>
    simp only [InStep, happ', happ, hstack, huser, Orderly, SignsIn, askedOnTop_iff hi ht, hok]
    by_cases hhead : w.store.stack.head? = some (.login id)
    · have hlogin : Screen.IsLogin (.login id) := trivial
      have hgone := not_shown_dismiss hg.bottom hlogin hhead
      tauto
    · have hstay := shown_dismiss_iff hg.bottom (Or.inr hhead)
      tauto
  | loggedOut happ' huser hc hstack =>
    refine iff_of_true (fun _ => iff_of_true ⟨_, ?_, hc⟩ huser) False.elim
    rw [hstack]
    exact List.mem_singleton_self _

end Outcome

/-! ## Every step has such an outcome -/

section Steps

variable {w w' : World ℕ Request Reply UIEffect UserAction App}
  {l : Label ℕ Request Reply UserAction} {s' : App} {es : List UIEffect}
  {ws : List (Waiting Request Reply UIEffect)} {i : ℕ}

/-- Every closure in flight is one its action leaves behind. -/
def Known (w : World ℕ Request Reply UIEffect UserAction App) : Prop :=
  ∀ i th, w.threads i = some th → ∀ v ∈ th.waiting, Awaits th.origin v

theorem not_signsIn_launch {a : UserAction} : ¬ SignsIn (.launch i a) := fun h => h

/-- Code with nothing left to do. -/
theorem outcome_of_done {a : UserAction}
    (hx : Exec App.Serve App.perform .done w.store s' es ws) (hl : ¬ SignsIn l) :
    Outcome w l s' ∧ ∀ v ∈ ws, Awaits a v := by
  obtain ⟨rfl, -, rfl⟩ := exec_done.1 hx
  exact ⟨.idle hl rfl rfl rfl, nofun⟩

/-- A request leaves the screens alone, and its closure behind. -/
theorem outcome_of_request {a : UserAction} {r : Request} {k : Reply → ScreenCode}
    (hx : Exec App.Serve App.perform (.request r k .done) w.store s' es ws)
    (hl : ¬ SignsIn l) (ha : Awaits a ⟨r, k⟩) :
    Outcome w l s' ∧ ∀ v ∈ ws, Awaits a v := by
  obtain ⟨rfl, -, rfl⟩ := exec_request_done.1 hx
  refine ⟨.idle hl rfl rfl rfl, fun v hv => ?_⟩
  rwa [List.mem_singleton.1 hv]

/-- An alert covers what is there. -/
theorem outcome_of_showAlert {a : UserAction} {presenter : Option Screen} {title message : String}
    (hx : Exec App.Serve App.perform (showAlert presenter title message) w.store s' es ws)
    (hl : ¬ SignsIn l) (hbase : presenter = none → w.store.appeared = true) :
    Outcome w l s' ∧ ∀ v ∈ ws, Awaits a v := by
  obtain ⟨rfl, -, rfl⟩ := exec_emit_done.1 hx
  exact ⟨@Outcome.cover w l _ presenter (.alert title message) hl rfl rfl (fun h => h) hbase rfl,
    nofun⟩

/-- A screen that is not the login screen goes. -/
theorem outcome_of_dismiss {a : UserAction} {c : Screen}
    (hx : Exec App.Serve App.perform (.emit (.dismiss c) .done) w.store s' es ws)
    (hl : ¬ SignsIn l) (hc : ¬ Screen.IsLogin c) :
    Outcome w l s' ∧ ∀ v ∈ ws, Awaits a v := by
  obtain ⟨rfl, -, rfl⟩ := exec_emit_done.1 hx
  exact ⟨.uncover hl rfl rfl hc rfl, nofun⟩

/-- Home appears, and presents the login screen if nobody is signed in. -/
theorem outcome_homeAppears
    (hx : Exec App.Serve App.perform HomeViewController.viewDidAppear w.store s' es ws) :
    Outcome w (.launch i .homeAppears) s' ∧ ∀ v ∈ ws, Awaits .homeAppears v := by
  rw [HomeViewController.viewDidAppear, exec_emit] at hx
  obtain ⟨_, -, hx⟩ := hx
  rw [HomeViewController.handleAuthentication, exec_call] at hx
  obtain ⟨reply, s₁, ⟨fb, hserve, rfl⟩, hx⟩ := hx
  cases hserve with
  | current hresult =>
    have hresult : reply.result = w.store.currentUser.isSome := hresult
    rw [hresult] at hx
    cases huser : w.store.currentUser with
    | none =>
      rw [huser] at hx
      obtain ⟨rfl, -, rfl⟩ := exec_emit_done.1 hx
      exact ⟨.appear rfl rfl (by rw [if_pos huser]; rfl), nofun⟩
    | some user =>
      rw [huser] at hx
      obtain ⟨rfl, -, rfl⟩ := exec_done.1 hx
      exact ⟨.appear rfl rfl (by rw [if_neg (by simp [huser])]; rfl), nofun⟩

/-- The sheet's "Yes": the login screen over the tab bar, or an alert. -/
theorem outcome_confirmLogOut (hempty : w.store.stack = []) (happ : w.store.appeared = true)
    (hx : Exec App.Serve App.perform SettingsViewController.didConfirmLogOut w.store s' es ws) :
    Outcome w (.launch i .confirmLogOut) s' ∧ ∀ v ∈ ws, Awaits .confirmLogOut v := by
  rw [SettingsViewController.didConfirmLogOut, AuthManager.logout_eq, exec_call] at hx
  obtain ⟨reply, s₁, ⟨fb, hserve, rfl⟩, hx⟩ := hx
  cases hserve with
  | signedOut herror =>
    rw [herror] at hx
    obtain ⟨rfl, -, rfl⟩ := exec_emit_done.1 hx
    refine ⟨@Outcome.loggedOut w i _ (.login w.store.created) happ ?_ trivial ?_, nofun⟩
    · exact Firebase.setCurrentUser_currentUser ..
    · exact (present_of_head (by simp [hempty]) _).trans (by simp [hempty])
  | notSignedOut herror =>
    rw [herror] at hx
    exact outcome_of_showAlert hx not_signsIn_launch fun _ => happ

section Launch

variable [DecimalDigits]

/-- **Every action has one of these outcomes**, and leaves only closures of its own. -/
theorem outcome_of_launch {a : UserAction} (hen : a.Enabled w.store)
    (hx : Exec App.Serve App.perform a.program w.store s' es ws) :
    Outcome w (.launch i a) s' ∧ ∀ v ∈ ws, Awaits a v := by
  cases a with
  | homeAppears => exact outcome_homeAppears hx
  | tapLogIn id text password =>
    rcases LoginViewController.didTapLoginBtn_cases id text password with
      ⟨t, p, rfl, rfl, heq⟩ | ⟨title, message, heq⟩ | heq
    all_goals rw [UserAction.program, heq] at hx
    · exact outcome_of_request hx not_signsIn_launch .signIn
    · exact outcome_of_showAlert hx not_signsIn_launch nofun
    · exact outcome_of_done hx not_signsIn_launch
  | tapCreateAccount id =>
    obtain ⟨rfl, -, rfl⟩ := exec_emit_done.1 hx
    exact ⟨@Outcome.cover w _ _ (some (.login id)) (.signUp w.store.created) not_signsIn_launch rfl
      rfl (fun h => h) nofun rfl, nofun⟩
  | tapSignUp id u e p =>
    rcases SignUpViewController.didTapRegisterBtn_cases id u e p with
      ⟨username, email, password, rfl, rfl, rfl, heq⟩ | ⟨title, message, heq⟩ | heq
    all_goals rw [UserAction.program, heq] at hx
    · exact outcome_of_request hx not_signsIn_launch .createUser
    · exact outcome_of_showAlert hx not_signsIn_launch nofun
    · exact outcome_of_done hx not_signsIn_launch
  | tapHaveAccount id => exact outcome_of_dismiss hx not_signsIn_launch fun h => h
  | tapGotIt title message => exact outcome_of_dismiss hx not_signsIn_launch fun h => h
  | confirmLogOut => exact outcome_confirmLogOut hen.1 hen.2 hx

end Launch

/-- **Every answer has one of these outcomes** too. -/
theorem outcome_of_answer {th : Thread Request Reply UIEffect UserAction} {r : Request}
    {k : Reply → ScreenCode} {reply : Reply} {s₁ : App} (hi : w.threads i = some th)
    (hk : Awaits th.origin ⟨r, k⟩) (hs : App.Serve r reply w.store s₁)
    (hx : Exec App.Serve App.perform (k reply) s₁ s' es ws) :
    Outcome w (.answer i r reply) s' ∧ ∀ v ∈ ws, Awaits th.origin v := by
  obtain ⟨fb, hserve, rfl⟩ := hs
  generalize ht : th.origin = a at hk ⊢
  cases hk with
  | @signIn id text password =>
    rw [AuthManager.didSignIn_eq] at hx
    cases hserve with
    | signedIn hok hacc =>
      rw [hok] at hx
      obtain ⟨rfl, -, rfl⟩ := exec_emit_done.1 hx
      refine ⟨.loggedIn hok hi ht rfl ?_ rfl, nofun⟩
      have huser := Firebase.setCurrentUser_currentUser w.store.firebase () (some text)
      exact fun hnone => nomatch huser.symm.trans hnone
    | notSignedIn hok =>
      rw [hok] at hx
      exact outcome_of_showAlert hx (by simp [SignsIn, hok]) nofun
  | @createUser id username email password =>
    cases hserve with
    | created hok hfree =>
      have huser := Firebase.createAccount_currentUser w.store.firebase () email password
      rw [AuthManager.didCreateUser_of_ok hok] at hx
      -- whether the database call throws or not, nothing on the screens changes
      by_cases hcan : DatabaseManager.CanInsert email username
      · rw [DatabaseManager.insertNewUser_of_canInsert hcan] at hx
        obtain ⟨rfl, -, rfl⟩ := exec_request_done.1 hx
        refine ⟨.signedUp hok rfl (fun hnone => nomatch huser.symm.trans hnone) rfl, ?_⟩
        simpa using Awaits.setValue
      · rw [DatabaseManager.insertNewUser_of_not hcan] at hx
        obtain ⟨rfl, -, rfl⟩ := exec_raise.1 hx
        exact ⟨.signedUp hok rfl (fun hnone => nomatch huser.symm.trans hnone) rfl, nofun⟩
    | notCreated hok =>
      rw [AuthManager.didCreateUser_of_not_ok hok] at hx
      exact outcome_of_done hx (by simp [SignsIn, hok])
  | @setValue id u e p path value =>
    rw [DatabaseManager.didSetValue_eq, SignUpViewController.didRegister, ite_self] at hx
    obtain ⟨rfl, -, rfl⟩ := exec_done.1 hx
    cases hserve with
    | written herror => exact ⟨.idle (fun h => h) rfl rfl rfl, nofun⟩
    | notWritten herror => exact ⟨.idle (fun h => h) rfl rfl rfl, nofun⟩

/-! ## Whole runs -/

variable [DecimalDigits]

/-- **What one step does**, in a world whose closures are all known. -/
theorem outcome_of_step (hk : Known w) (hs : Step sessionSystem w l w') :
    Outcome w l w'.store ∧ Known w' := by
  cases hs with
  | launch hi hen hx =>
    obtain ⟨ho, hws⟩ := outcome_of_launch hen hx
    exact ⟨ho, World.forall_update hk hws⟩
  | @answer i th pre r k post a s₁ s' es ws hi hw hsv hx =>
    have hth := hk i th hi
    rw [hw] at hth
    obtain ⟨ho, hws⟩ := outcome_of_answer hi (hth _ (by simp)) hsv hx
    refine ⟨ho, World.forall_update hk fun v hv => ?_⟩
    simp only [List.mem_append] at hv
    rcases hv with (hv | hv) | hv
    · exact hth v (by simp [hv])
    · exact hth v (by simp [hv])
    · exact hws v hv

/-- What a step keeps: everything the promise rests on, and the promise itself if it is orderly. -/
structure Sound (w : World ℕ Request Reply UIEffect UserAction App) : Prop where
  known : Known w
  grounded : Grounded w.store
  inStep : InStep w.store

omit [DecimalDigits] in
theorem Sound.initial (fb : Firebase Unit) : Sound (World.initial (App.launched fb)) where
  known i th hi := by simp at hi
  grounded := ⟨fun c hc => by simp [App.launched] at hc, fun _ => rfl⟩
  inStep happ := nomatch happ

omit [DecimalDigits] in
theorem inStep_of_not_appeared {s' : App} (hg : Grounded w.store)
    (happ : w.store.appeared = false) (ho : Outcome w l s') : InStep s' := by
  intro happ'
  cases ho with
  | appear h huser hstack =>
    rw [huser, hstack, hg.bare happ]
    split_ifs with hnone
    · exact iff_of_true ⟨_, List.mem_singleton_self _, trivial⟩ hnone
    · exact iff_of_false (fun ⟨c, hc, _⟩ => nomatch hc) hnone
  | idle hl h huser hstack => simp [h, happ] at happ'
  | cover hl h huser hc hbase hstack => simp [h, happ] at happ'
  | uncover hl h huser hc hstack => simp [h, happ] at happ'
  | signedUp hok h huser hstack => simp [h, happ] at happ'
  | loggedIn hok hi ht h huser hstack => simp [h, happ] at happ'
  | loggedOut h huser hc hstack => exact iff_of_true ⟨_, by simp [hstack], hc⟩ huser

theorem Sound.step (h : Sound w) (hs : Step sessionSystem w l w') (hl : Orderly w l) :
    Sound w' := by
  obtain ⟨ho, hk⟩ := outcome_of_step h.known hs
  refine ⟨hk, ho.grounded h.grounded, ?_⟩
  cases happ : w.store.appeared with
  | false => exact inStep_of_not_appeared h.grounded happ ho
  | true => exact (inStep_iff_orderly h.grounded happ h.inStep ho).2 hl

/-- **In every run whose steps are all orderly, the login screen is up exactly while nobody is
signed in**, in every state once Home has appeared. -/
theorem inStep_of_orderly (fb : Firebase Unit)
    {w : World ℕ Request Reply UIEffect UserAction App}
    (hw : RunUnder sessionSystem Orderly (World.initial (App.launched fb)) w) :
    w.store.appeared = true →
      ((∃ c ∈ w.store.stack, Screen.IsLogin c) ↔ w.store.currentUser = none) :=
  (hw.invariant (Sound.initial fb) fun _ _ _ _ ih hs hl => ih.step hs hl).inStep

/-- **Every sign-up on a fresh start ends out of step**: if its username is not too long, the
account is made and signed in, nothing is outstanding, and the login screen is still there under the
sign-up screen. -/
theorem exists_signedUp_under_login {username email password : SwiftString}
    (h : SignUpViewController.Accepted (some username) (some email) (some password))
    (hleaf : isValidLeafValue username = true) :
    ∃ w, Reachable sessionSystem (World.initial (App.launched Firebase.empty)) w ∧ Quiescent w ∧
      w.store.appeared = true ∧ w.store.stack = [.signUp 1, .login 0] ∧
        w.store.currentUser = some email := by
  have hcan : DatabaseManager.CanInsert email username := by
    obtain ⟨_, _, _, ⟨⟩, ⟨⟩, ⟨⟩, -, hemail, -⟩ := h
    exact ⟨ne_nil_of_isValidEmail hemail, hleaf⟩
  have hstart : Reachable sessionSystem (World.initial (App.launched Firebase.empty))
    (World.initial (App.launched Firebase.empty)) := .refl
  have htap : Exec App.Serve App.perform
      (UserAction.tapSignUp 1 (some username) (some email) (some password)).program
      ⟨Firebase.empty, [.signUp 1, .login 0], 2, true⟩
      ⟨Firebase.empty, [.signUp 1, .login 0], 2, true⟩ []
      [⟨.createUser email password,
        AuthManager.didCreateUser username email SignUpViewController.didRegister⟩] := by
    rw [UserAction.program, SignUpViewController.didTapRegisterBtn_of_accepted 1 h]
    exact .request .done
  have hcreated : Exec App.Serve App.perform
      (AuthManager.didCreateUser username email SignUpViewController.didRegister .success)
      ⟨Firebase.empty.createAccount () email password, [.signUp 1, .login 0], 2, true⟩
      ⟨Firebase.empty.createAccount () email password, [.signUp 1, .login 0], 2, true⟩ []
      [⟨.setValue (pathWithString (safeDataBaseKey email)) ⟨username⟩,
        DatabaseManager.didSetValue SignUpViewController.didRegister⟩] := by
    rw [AuthManager.didCreateUser_of_ok rfl, DatabaseManager.insertNewUser_of_canInsert hcan]
    exact .request .done
  have happear := hstart.launch 0 (t := .homeAppears) rfl trivial
    (.emit (.call (a := ⟨false, false⟩) ⟨_, .current rfl, rfl⟩ (.emit .done))) trivial
  have hcreate := happear.launch 1 (t := .tapCreateAccount 0) rfl rfl (.emit .done) trivial
  have hsign := hcreate.launch 2 (t := .tapSignUp 1 (some username) (some email) (some password))
    rfl rfl htap trivial
  have hauth := hsign.answer 2 rfl .success ⟨_, .created rfl rfl, rfl⟩ hcreated trivial
  have hdone := hauth.answer 2 rfl .success ⟨_, .written rfl, rfl⟩ .done trivial
  refine ⟨_, hdone, fun i th hi => ?_, rfl, rfl, rfl⟩
  rcases i with - | - | - | i
  · exact (Option.some.inj hi) ▸ rfl
  · exact (Option.some.inj hi) ▸ rfl
  · exact (Option.some.inj hi) ▸ rfl
  · exact nomatch hi

/-- Logging in with the right password on the login screen Home presents, with nothing in
between. -/
theorem exists_loggedIn {fb : Firebase Unit} {email password : SwiftString} (he : email ≠ [])
    (hp : password ≠ []) (hacc : fb.accounts email = some password)
    (huser : fb.currentUser () = none) :
    ∃ w, RunUnder sessionSystem Orderly (World.initial (App.launched fb)) w ∧
      w.store.appeared = true ∧ w.store.currentUser = some email := by
  have hstart : RunUnder sessionSystem Orderly (World.initial (App.launched fb))
    (World.initial (App.launched fb)) := .refl
  have hresult : (false : Bool) = (fb.currentUser ()).isSome := by rw [huser]; rfl
  have htap : Exec App.Serve App.perform
      (UserAction.tapLogIn 0 (some email) (some password)).program
      ⟨fb, [.login 0], 1, true⟩ ⟨fb, [.login 0], 1, true⟩ []
      [⟨.signIn email password, AuthManager.didSignIn (LoginViewController.didLogIn 0)⟩] := by
    rw [UserAction.program, LoginViewController.didTapLoginBtn_of_ne_nil 0 he hp]
    exact .request .done
  have happear := hstart.launch 0 (t := .homeAppears) rfl trivial
    (.emit (.call (a := ⟨false, false⟩) ⟨_, .current hresult, rfl⟩ (.emit .done))) False.elim
  have hsubmit := happear.launch 1 (t := .tapLogIn 0 (some email) (some password)) rfl rfl htap
    False.elim
  have hdone := hsubmit.answer 1 rfl .success ⟨_, .signedIn rfl hacc, rfl⟩ (.emit .done)
    fun _ => Or.inr ⟨_, 0, some email, some password, rfl, rfl, rfl⟩
  exact ⟨_, hdone, rfl, Firebase.setCurrentUser_currentUser ..⟩

end Steps

section Ruth

attribute [local instance] asciiDigits

/-- Ruth signs up, and is left with a login screen under the sign-up screen. -/
theorem ruth_signedUp_under_login : ¬ ∀ (fb : Firebase Unit) (w),
    Reachable sessionSystem (World.initial (App.launched fb)) w → Quiescent w →
      w.store.appeared = true →
        ((∃ c ∈ w.store.stack, Screen.IsLogin c) ↔ w.store.currentUser = none) := by
  intro h
  have hform : SignUpViewController.Accepted (some "ruth".toList) (some "a.b@c.co".toList)
      (some "passw0rd".toList) := ⟨_, _, _, rfl, rfl, rfl, by decide, by decide, by decide⟩
  obtain ⟨w, hw, hq, happ, hstack, huser⟩ := exists_signedUp_under_login hform (by decide)
  have hnone := (h _ w hw hq happ).1 ⟨.login 0, by simp [hstack], trivial⟩
  exact nomatch huser.symm.trans hnone

/-- A Firebase with Ruth's account, signed out. -/
def ruthSignedOut : Firebase Unit :=
  (Firebase.empty.createAccount () "a.b@c.co".toList "passw0rd".toList).setCurrentUser () none

/-- Ruth logs in, and the login screen is gone. -/
theorem ruth_loggedIn : ∃ w,
    RunUnder sessionSystem Orderly (World.initial (App.launched ruthSignedOut)) w ∧
      w.store.currentUser = some "a.b@c.co".toList ∧
        ¬ ∃ c ∈ w.store.stack, Screen.IsLogin c := by
  obtain ⟨w, hw, happ, huser⟩ := @exists_loggedIn _ ruthSignedOut "a.b@c.co".toList
    "passw0rd".toList (by decide) (by decide) rfl rfl
  refine ⟨w, hw, huser, fun hshown => ?_⟩
  have hnone := (inStep_of_orderly ruthSignedOut hw happ).1 hshown
  exact nomatch huser.symm.trans hnone

end Ruth

end InstaGLAM
