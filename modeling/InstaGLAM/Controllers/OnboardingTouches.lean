import InstaGLAM.Controllers.OnboardingColumn
import InstaGLAM.Controllers.ScreenLayout
import Mathlib.Order.WithBot

/-!
# Controllers/OnboardingTouches — what a touch does on the login and the sign-up screen

    viewDidLoad ──viewDidLayoutSubviews──▸ … ──▸ a touch ──hitTest──▸ a control ──▸ its target

Both screens are a column with a foot.  On a screen that is too low the foot takes the touches of
the column: each control needs some room to answer all of its own, and there are heights for which
no touch reaches it at all (`login_touches`, `signUp_touches`).
-/

namespace InstaGLAM

open Frame Onboarding

/-! ## The login screen -/

/-- The subviews of the login screen. -/
inductive LoginControl where
  | userNameOrEmailTextField | passwordTextField | loginBtn | createAccountBtn | termsBtn
  | privacyBtn | headerView
  deriving DecidableEq

/-- What a control of an onboarding screen calls when it is tapped. -/
inductive OnboardingAction where
  | didTapLoginBtn | didTapCreateAccount | didTapRegisterBtn | didTapTermsBtn | didTapPrivacyBtn
  deriving DecidableEq

namespace LoginControl

/-- `addSubViews()` -/
def addSubViews : List LoginControl :=
  [userNameOrEmailTextField, passwordTextField, loginBtn, createAccountBtn, termsBtn, privacyBtn,
    headerView]

/-- The targets added in `viewDidLoad()`. -/
def target : LoginControl → Option OnboardingAction
  | loginBtn => some .didTapLoginBtn
  | createAccountBtn => some .didTapCreateAccount
  | termsBtn => some .didTapTermsBtn
  | privacyBtn => some .didTapPrivacyBtn
  | userNameOrEmailTextField | passwordTextField | headerView => none

/-- Its frame in the layout. -/
def frame (l : LoginLayout) : LoginControl → Rect ℚ
  | userNameOrEmailTextField => l.userNameOrEmailTextField
  | passwordTextField => l.passwordTextField
  | loginBtn => l.loginBtn
  | createAccountBtn => l.createAccountBtn
  | termsBtn => l.termsBtn
  | privacyBtn => l.privacyBtn
  | headerView => l.headerView

/-- The height of a screen on which the control answers all its touches. -/
def room : LoginControl → WithTop ℚ
  | userNameOrEmailTextField => (288 : ℚ)
  | passwordTextField => (396 : ℚ)
  | loginBtn => (501 : ℚ)
  | createAccountBtn => (591 : ℚ)
  | termsBtn => ⊤
  | privacyBtn | headerView => (0 : ℚ)

/-- The heights of a screen on which no touch reaches the control. -/
def Hidden (h : ℚ) : LoginControl → Prop
  | userNameOrEmailTextField => 168 ≤ h ∧ h ≤ 210
  | passwordTextField => h ≤ 168 ∨ 276 ≤ h ∧ h ≤ 318
  | loginBtn => h ≤ 276 ∨ 381 ≤ h ∧ h ≤ 426
  | createAccountBtn => h ≤ 366 ∨ 471 ≤ h ∧ h ≤ 516
  | termsBtn | privacyBtn | headerView => False

variable {w h : ℚ} {l : LoginLayout} {last : ViewGeometry}

/-- The frames that the last pass computes. -/
structure LaidOut (w h : ℚ) (l : LoginLayout) : Prop where
  userNameOrEmailTextField : l.userNameOrEmailTextField = row w (h / 3 + 40) 52
  passwordTextField : l.passwordTextField = row w (h / 3 + 112) 52
  loginBtn : l.loginBtn = row w (h / 3 + 184) 50
  createAccountBtn : l.createAccountBtn = row w (h / 3 + 244) 50
  termsBtn : l.termsBtn = row w (h - 100) 50
  privacyBtn : l.privacyBtn = row w (h - 70) 50
  headerView : l.headerView = ⟨0, 0, w, h / 3⟩

theorem laidOut (hlast : last.frame = screenBounds w h) (l : LoginLayout) :
    LaidOut w h (l.viewDidLayoutSubviews last) := by
  have hothers := LoginLayout.others_viewDidLayoutSubviews l last
  obtain ⟨_, safeAreaTop⟩ := last
  obtain rfl := hlast
  refine ⟨(congrArg LoginLayout.userNameOrEmailTextField hothers).trans (Rect.ext rfl ?_ rfl rfl),
    (congrArg LoginLayout.passwordTextField hothers).trans (Rect.ext rfl ?_ rfl rfl),
    (congrArg LoginLayout.loginBtn hothers).trans (Rect.ext rfl ?_ rfl rfl),
    (congrArg LoginLayout.createAccountBtn hothers).trans (Rect.ext rfl ?_ rfl rfl),
    (congrArg LoginLayout.termsBtn hothers).trans (Rect.ext rfl ?_ rfl rfl),
    (congrArg LoginLayout.privacyBtn hothers).trans (Rect.ext rfl ?_ rfl rfl),
    congrArg LoginLayout.headerView hothers⟩
  · change 0 + h / 3 + 40 = h / 3 + 40
    ring
  · change 0 + h / 3 + 40 + 52 + 20 = h / 3 + 112
    ring
  · change 0 + h / 3 + 40 + 52 + 20 + 52 + 20 = h / 3 + 184
    ring
  · change 0 + h / 3 + 40 + 52 + 20 + 52 + 20 + 50 + 10 = h / 3 + 244
    ring
  · change 0 + h - 100 = h - 100
    ring
  · change 0 + h - 70 = h - 70
    ring

/-- The rows of the column. -/
def column (h : ℚ) : List (LoginControl × ℚ × ℚ) :=
  [(userNameOrEmailTextField, h / 3 + 40, 52), (passwordTextField, h / 3 + 112, 52),
    (loginBtn, h / 3 + 184, 50), (createAccountBtn, h / 3 + 244, 50)]

/-- The header is above the rows. -/
theorem header_apart (hl : LaidOut w h l) {top height : ℚ} (htop : h / 3 ≤ top) :
    ∀ u ∈ [headerView], (row w top height).Apart (frame l u) := by
  intro u hu
  obtain rfl := List.mem_singleton.1 hu
  have hheader : frame l headerView = ⟨0, 0, w, h / 3⟩ := hl.headerView
  rw [hheader, apart_iff_contains]
  rintro p hp ⟨-, -, hlow⟩
  have hlow : p.2 < 0 + h / 3 := hlow
  have hrow := (row_contains_iff.1 hp).2.1
  linarith

theorem foot (hl : LaidOut w h l) (hw : 50 < w) (hh : 150 ≤ h) :
    Foot w h (frame l) termsBtn privacyBtn [headerView] where
  wide := hw
  tall := by linarith
  terms_once := by decide
  privacy_once := by decide
  termsFrame := hl.termsBtn
  privacyFrame := hl.privacyBtn
  clear u hu := by
    have hterms : frame l termsBtn = row w (h - 100) 50 := hl.termsBtn
    have hprivacy : frame l privacyBtn = row w (h - 70) 50 := hl.privacyBtn
    rw [hterms, hprivacy]
    exact ⟨header_apart hl (by linarith) u hu, header_apart hl (by linarith) u hu⟩

/-- **The login screen is a column with a foot.** -/
theorem isColumn (hl : LaidOut w h l) (hw : 50 < w) (hh : 150 ≤ h) :
    Column w h (frame l) (column h) termsBtn privacyBtn [headerView] := by
  have honce : ((column h).map Prod.fst ++ [termsBtn, privacyBtn, headerView]).Nodup :=
    (by decide : addSubViews.Nodup)
  refine ⟨foot hl hw hh, honce, ?_, ?_, ?_⟩
  · simp only [column, List.pairwise_cons, List.forall_mem_cons, List.not_mem_nil, false_implies,
      implies_true, and_true, List.Pairwise.nil]
    refine ⟨⟨?_, ?_, ?_⟩, ⟨?_, ?_⟩, ?_⟩ <;> linarith
  · simp only [column, List.forall_mem_cons, List.not_mem_nil, false_implies, implies_true,
      and_true]
    exact ⟨⟨hl.userNameOrEmailTextField, by linarith, by norm_num⟩,
      ⟨hl.passwordTextField, by linarith, by norm_num⟩,
      ⟨hl.loginBtn, by linarith, by norm_num⟩, ⟨hl.createAccountBtn, by linarith, by norm_num⟩⟩
  · rintro ⟨v, top, height⟩ hv
    refine header_apart hl ?_
    simp only [column, List.mem_cons, Prod.mk.injEq, List.not_mem_nil, or_false] at hv
    rcases hv with ⟨-, rfl, -⟩ | ⟨-, rfl, -⟩ | ⟨-, rfl, -⟩ | ⟨-, rfl, -⟩ <;> linarith

theorem answers_headerView (hl : LaidOut w h l) (hh : 150 ≤ h) :
    Answers (screenBounds w h) (frame l) addSubViews headerView := by
  have hheader : frame l headerView = ⟨0, 0, w, h / 3⟩ := hl.headerView
  refine (Frame.answers_iff [userNameOrEmailTextField, passwordTextField, loginBtn,
    createAccountBtn, termsBtn, privacyBtn] (by simp)).2 ⟨fun p hp => ?_, by simp⟩
  rw [hheader] at hp
  obtain ⟨⟨hleft, hright⟩, hlow, hhigh⟩ := hp
  have hright : p.1 < 0 + w := hright
  have hhigh : p.2 < 0 + h / 3 := hhigh
  exact screenBounds_contains_iff.2 ⟨⟨hleft, by linarith⟩, hlow, by linarith⟩

/-- **Which controls answer all their touches.** -/
theorem answers_iff (hl : LaidOut w h l) (hw : 50 < w) (hh : 150 ≤ h) (c : LoginControl) :
    Answers (screenBounds w h) (frame l) addSubViews c ↔ c.room ≤ h := by
  have hfoot := foot hl hw hh
  have hrow : ∀ {v : LoginControl} {top height : ℚ}, (v, top, height) ∈ column h →
      (Answers (screenBounds w h) (frame l) addSubViews v ↔ top + height ≤ h - 100) :=
    fun hv => (isColumn hl hw hh).answers_iff hv
  cases c with
  | userNameOrEmailTextField =>
    rw [hrow (.head _), room, WithTop.coe_le_coe]
    constructor <;> intro <;> linarith
  | passwordTextField =>
    rw [hrow (.tail _ (.head _)), room, WithTop.coe_le_coe]
    constructor <;> intro <;> linarith
  | loginBtn =>
    rw [hrow (.tail _ (.tail _ (.head _))), room, WithTop.coe_le_coe]
    constructor <;> intro <;> linarith
  | createAccountBtn =>
    rw [hrow (.tail _ (.tail _ (.tail _ (.head _)))), room, WithTop.coe_le_coe]
    constructor <;> intro <;> linarith
  | termsBtn =>
    have hnot := (hfoot.not_answers_terms ((column h).map Prod.fst)).1
    exact ⟨fun h => absurd h hnot, fun h => absurd h (WithTop.not_top_le_coe _)⟩
  | privacyBtn =>
    rw [room, WithTop.coe_le_coe]
    exact ⟨fun _ => by linarith, fun _ => hfoot.answers_privacy ((column h).map Prod.fst)⟩
  | headerView =>
    rw [room, WithTop.coe_le_coe]
    exact ⟨fun _ => by linarith, fun _ => answers_headerView hl hh⟩

/-- **Which controls no touch reaches.** -/
theorem outOfReach_iff (hl : LaidOut w h l) (hw : 50 < w) (hh : 150 ≤ h) (c : LoginControl) :
    OutOfReach (screenBounds w h) (frame l) addSubViews c ↔ c.Hidden h := by
  have hfoot := (foot hl hw hh).not_answers_terms ((column h).map Prod.fst)
  have hrow : ∀ {v : LoginControl} {top height : ℚ}, (v, top, height) ∈ column h →
      (OutOfReach (screenBounds w h) (frame l) addSubViews v ↔
        h ≤ top ∨ h - 100 ≤ top ∧ top + height ≤ h - 20) :=
    fun hv => (isColumn hl hw hh).outOfReach_iff hv
  cases c with
  | userNameOrEmailTextField =>
    rw [hrow (.head _), Hidden]
    grind
  | passwordTextField =>
    rw [hrow (.tail _ (.head _)), Hidden]
    grind
  | loginBtn =>
    rw [hrow (.tail _ (.tail _ (.head _))), Hidden]
    grind
  | createAccountBtn =>
    rw [hrow (.tail _ (.tail _ (.tail _ (.head _)))), Hidden]
    grind
  | termsBtn => exact ⟨hfoot.2.1, False.elim⟩
  | privacyBtn => exact ⟨hfoot.2.2, False.elim⟩
  | headerView =>
    have hself : (frame l headerView).Contains (0, 0) := by
      have hheader : frame l headerView = ⟨0, 0, w, h / 3⟩ := hl.headerView
      rw [hheader, Rect.Contains, Rect.right, Rect.bottom]
      exact ⟨⟨le_refl _, by simpa using by linarith⟩, le_refl _, by simpa using by linarith⟩
    exact ⟨fun hout => hout _ (answers_headerView hl hh _ hself), False.elim⟩

end LoginControl

open LoginControl in
/-- **What touches do on the login screen**, after any passes: on a screen lower than its room a
control loses touches to the foot, for the heights given it loses all of them, and the lower 20 of
the 50 points of the terms always open the privacy policy. -/
theorem login_touches (gradient : Rect ℚ) (g₀ last : ViewGeometry) (earlier : List ViewGeometry)
    {w h : ℚ} (hlast : last.frame = screenBounds w h) (hw : 50 < w) (hh : 150 ≤ h) :
    let l := (LoginLayout.screen gradient).after g₀ (last :: earlier)
    (∀ c : LoginControl, Answers (screenBounds w h) (frame l) addSubViews c ↔ c.room ≤ h) ∧
    (∀ c : LoginControl, OutOfReach (screenBounds w h) (frame l) addSubViews c ↔ c.Hidden h) ∧
    ∀ p, l.termsBtn.Contains p →
      (touched (screenBounds w h) (frame l) addSubViews p).bind target =
        some (if p.2 < h - 70 then .didTapTermsBtn else .didTapPrivacyBtn) := by
  intro l
  have hl : LaidOut w h l := laidOut hlast _
  refine ⟨answers_iff hl hw hh, outOfReach_iff hl hw hh, fun p hp => ?_⟩
  have htouched : touched (screenBounds w h) (frame l) addSubViews p =
      some (if p.2 < h - 70 then termsBtn else privacyBtn) :=
    (foot hl hw hh).touched_terms ((column h).map Prod.fst) hp
  rw [htouched]
  split_ifs <;> rfl

/-- On a phone on its side, 390 points high, no touch reaches the login button. -/
theorem login_touches_onSide :
    OutOfReach (screenBounds 844 390)
      (LoginControl.frame ((LoginLayout.screen ⟨0, 0, 414, 300⟩).after ⟨screenBounds 844 390, 0⟩
        [⟨screenBounds 844 390, 0⟩])) LoginControl.addSubViews .loginBtn :=
  ((login_touches ⟨0, 0, 414, 300⟩ ⟨screenBounds 844 390, 0⟩ ⟨screenBounds 844 390, 0⟩ [] rfl
    (by norm_num) (by norm_num)).2.1 .loginBtn).2 (Or.inr ⟨by norm_num, by norm_num⟩)

/-! ## The sign-up screen -/

/-- The frames of the sign-up screen. -/
structure SignUpLayout where
  usernameTextField : Rect ℚ
  emailTextField : Rect ℚ
  passwordTextField : Rect ℚ
  registerBtn : Rect ℚ
  loginBtn : Rect ℚ
  termsBtn : Rect ℚ
  privacyBtn : Rect ℚ

namespace SignUpLayout

/-- `viewDidLoad()` -/
def viewDidLoad : SignUpLayout :=
  ⟨⟨0, 0, 0, 0⟩, ⟨0, 0, 0, 0⟩, ⟨0, 0, 0, 0⟩, ⟨0, 0, 0, 0⟩, ⟨0, 0, 0, 0⟩, ⟨0, 0, 0, 0⟩, ⟨0, 0, 0, 0⟩⟩

/-- `viewDidLayoutSubviews()`: the column is as wide as `view.right`, the foot as `view.width`. -/
def viewDidLayoutSubviews (_l : SignUpLayout) (view : ViewGeometry) : SignUpLayout :=
  let right := view.frame.right
  let usernameTextField : Rect ℚ :=
    ⟨25, view.safeAreaTop + 50, right - 50, Constants.textFieldsHeight⟩
  let emailTextField : Rect ℚ :=
    ⟨25, usernameTextField.bottom + 10, right - 50, Constants.textFieldsHeight⟩
  let passwordTextField : Rect ℚ :=
    ⟨25, emailTextField.bottom + 10, right - 50, Constants.textFieldsHeight⟩
  let registerBtn : Rect ℚ :=
    ⟨25, passwordTextField.bottom + 30, right - 50, Constants.buttonHeight⟩
  let loginBtn : Rect ℚ := ⟨25, registerBtn.bottom + 10, right - 50, Constants.buttonHeight⟩
  let termsBtn : Rect ℚ :=
    ⟨25, view.frame.bottom - 100, view.frame.width - 50, Constants.buttonHeight⟩
  let privacyBtn : Rect ℚ :=
    ⟨25, view.frame.bottom - 70, view.frame.width - 50, Constants.buttonHeight⟩
  { usernameTextField, emailTextField, passwordTextField, registerBtn, loginBtn, termsBtn
    privacyBtn }

/-- The sign-up screen. -/
def screen : LayoutPass.Screen ViewGeometry SignUpLayout :=
  ⟨fun _ => viewDidLoad, viewDidLayoutSubviews⟩

end SignUpLayout

/-- The subviews of the sign-up screen. -/
inductive SignUpControl where
  | usernameTextField | emailTextField | passwordTextField | registerBtn | loginBtn | termsBtn
  | privacyBtn
  deriving DecidableEq

namespace SignUpControl

/-- `addSubViews()` -/
def addSubViews : List SignUpControl :=
  [usernameTextField, emailTextField, passwordTextField, registerBtn, loginBtn, termsBtn,
    privacyBtn]

/-- The targets added in `viewDidLoad()`: `didTapTermsBtn` and `didTapPrivacyBtn` are not. -/
def target : SignUpControl → Option OnboardingAction
  | registerBtn => some .didTapRegisterBtn
  | loginBtn => some .didTapLoginBtn
  | usernameTextField | emailTextField | passwordTextField | termsBtn | privacyBtn => none

/-- Its frame in the layout. -/
def frame (l : SignUpLayout) : SignUpControl → Rect ℚ
  | usernameTextField => l.usernameTextField
  | emailTextField => l.emailTextField
  | passwordTextField => l.passwordTextField
  | registerBtn => l.registerBtn
  | loginBtn => l.loginBtn
  | termsBtn => l.termsBtn
  | privacyBtn => l.privacyBtn

/-- The height of a screen, with the top of its safe area at `s`, on which the control answers all
its touches. -/
def room (s : ℚ) : SignUpControl → WithTop ℚ
  | usernameTextField => (s + 202 : ℚ)
  | emailTextField => (s + 264 : ℚ)
  | passwordTextField => (s + 326 : ℚ)
  | registerBtn => (s + 406 : ℚ)
  | loginBtn => (s + 466 : ℚ)
  | termsBtn => ⊤
  | privacyBtn => (0 : ℚ)

/-- The heights of a screen on which no touch reaches the control. -/
def Hidden (s h : ℚ) : SignUpControl → Prop
  | usernameTextField => s + 122 ≤ h ∧ h ≤ s + 150
  | emailTextField => h ≤ s + 112 ∨ s + 184 ≤ h ∧ h ≤ s + 212
  | passwordTextField => h ≤ s + 174 ∨ s + 246 ≤ h ∧ h ≤ s + 274
  | registerBtn => h ≤ s + 256 ∨ s + 326 ≤ h ∧ h ≤ s + 356
  | loginBtn => h ≤ s + 316 ∨ s + 386 ≤ h ∧ h ≤ s + 416
  | termsBtn | privacyBtn => False

variable {w h s : ℚ} {l : SignUpLayout} {last : ViewGeometry}

/-- The frames that the last pass computes. -/
structure LaidOut (w h s : ℚ) (l : SignUpLayout) : Prop where
  usernameTextField : l.usernameTextField = row w (s + 50) 52
  emailTextField : l.emailTextField = row w (s + 112) 52
  passwordTextField : l.passwordTextField = row w (s + 174) 52
  registerBtn : l.registerBtn = row w (s + 256) 50
  loginBtn : l.loginBtn = row w (s + 316) 50
  termsBtn : l.termsBtn = row w (h - 100) 50
  privacyBtn : l.privacyBtn = row w (h - 70) 50

theorem laidOut (hlast : last.frame = screenBounds w h) (l : SignUpLayout) :
    LaidOut w h last.safeAreaTop (l.viewDidLayoutSubviews last) := by
  obtain ⟨_, s⟩ := last
  obtain rfl := hlast
  have hright : (0 : ℚ) + w - 50 = w - 50 := by ring
  refine ⟨Rect.ext rfl rfl hright rfl, Rect.ext rfl ?_ hright rfl, Rect.ext rfl ?_ hright rfl,
    Rect.ext rfl ?_ hright rfl, Rect.ext rfl ?_ hright rfl, Rect.ext rfl ?_ rfl rfl,
    Rect.ext rfl ?_ rfl rfl⟩
  · change s + 50 + 52 + 10 = s + 112
    ring
  · change s + 50 + 52 + 10 + 52 + 10 = s + 174
    ring
  · change s + 50 + 52 + 10 + 52 + 10 + 52 + 30 = s + 256
    ring
  · change s + 50 + 52 + 10 + 52 + 10 + 52 + 30 + 50 + 10 = s + 316
    ring
  · change 0 + h - 100 = h - 100
    ring
  · change 0 + h - 70 = h - 70
    ring

/-- The rows of the column. -/
def column (s : ℚ) : List (SignUpControl × ℚ × ℚ) :=
  [(usernameTextField, s + 50, 52), (emailTextField, s + 112, 52),
    (passwordTextField, s + 174, 52), (registerBtn, s + 256, 50), (loginBtn, s + 316, 50)]

theorem foot (hl : LaidOut w h s l) (hs : 0 ≤ s) (hw : 50 < w) (hh : s + 100 ≤ h) :
    Foot w h (frame l) termsBtn privacyBtn [] :=
  ⟨hw, by linarith, by decide, by decide, hl.termsBtn, hl.privacyBtn, by simp⟩

/-- **The sign-up screen is a column with a foot.** -/
theorem isColumn (hl : LaidOut w h s l) (hs : 0 ≤ s) (hw : 50 < w) (hh : s + 100 ≤ h) :
    Column w h (frame l) (column s) termsBtn privacyBtn [] := by
  have honce : ((column s).map Prod.fst ++ [termsBtn, privacyBtn]).Nodup :=
    (by decide : addSubViews.Nodup)
  refine ⟨foot hl hs hw hh, honce, ?_, ?_, by simp⟩
  · simp only [column, List.pairwise_cons, List.forall_mem_cons, List.not_mem_nil, false_implies,
      implies_true, and_true, List.Pairwise.nil]
    refine ⟨⟨?_, ?_, ?_, ?_⟩, ⟨?_, ?_, ?_⟩, ⟨?_, ?_⟩, ?_⟩ <;> linarith
  · simp only [column, List.forall_mem_cons, List.not_mem_nil, false_implies, implies_true,
      and_true]
    exact ⟨⟨hl.usernameTextField, by linarith, by norm_num⟩,
      ⟨hl.emailTextField, by linarith, by norm_num⟩,
      ⟨hl.passwordTextField, by linarith, by norm_num⟩,
      ⟨hl.registerBtn, by linarith, by norm_num⟩, ⟨hl.loginBtn, by linarith, by norm_num⟩⟩

/-- **Which controls answer all their touches.** -/
theorem answers_iff (hl : LaidOut w h s l) (hs : 0 ≤ s) (hw : 50 < w) (hh : s + 100 ≤ h)
    (c : SignUpControl) :
    Answers (screenBounds w h) (frame l) addSubViews c ↔ c.room s ≤ h := by
  have hfoot := foot hl hs hw hh
  have hrow : ∀ {v : SignUpControl} {top height : ℚ}, (v, top, height) ∈ column s →
      (Answers (screenBounds w h) (frame l) addSubViews v ↔ top + height ≤ h - 100) :=
    fun hv => (isColumn hl hs hw hh).answers_iff hv
  cases c with
  | usernameTextField =>
    rw [hrow (.head _), room, WithTop.coe_le_coe]
    constructor <;> intro <;> linarith
  | emailTextField =>
    rw [hrow (.tail _ (.head _)), room, WithTop.coe_le_coe]
    constructor <;> intro <;> linarith
  | passwordTextField =>
    rw [hrow (.tail _ (.tail _ (.head _))), room, WithTop.coe_le_coe]
    constructor <;> intro <;> linarith
  | registerBtn =>
    rw [hrow (.tail _ (.tail _ (.tail _ (.head _)))), room, WithTop.coe_le_coe]
    constructor <;> intro <;> linarith
  | loginBtn =>
    rw [hrow (.tail _ (.tail _ (.tail _ (.tail _ (.head _))))), room, WithTop.coe_le_coe]
    constructor <;> intro <;> linarith
  | termsBtn =>
    have hnot := (hfoot.not_answers_terms ((column s).map Prod.fst)).1
    exact ⟨fun h => absurd h hnot, fun h => absurd h (WithTop.not_top_le_coe _)⟩
  | privacyBtn =>
    rw [room, WithTop.coe_le_coe]
    exact ⟨fun _ => by linarith, fun _ => hfoot.answers_privacy ((column s).map Prod.fst)⟩

/-- **Which controls no touch reaches.** -/
theorem outOfReach_iff (hl : LaidOut w h s l) (hs : 0 ≤ s) (hw : 50 < w) (hh : s + 100 ≤ h)
    (c : SignUpControl) :
    OutOfReach (screenBounds w h) (frame l) addSubViews c ↔ c.Hidden s h := by
  have hfoot := (foot hl hs hw hh).not_answers_terms ((column s).map Prod.fst)
  have hrow : ∀ {v : SignUpControl} {top height : ℚ}, (v, top, height) ∈ column s →
      (OutOfReach (screenBounds w h) (frame l) addSubViews v ↔
        h ≤ top ∨ h - 100 ≤ top ∧ top + height ≤ h - 20) :=
    fun hv => (isColumn hl hs hw hh).outOfReach_iff hv
  cases c with
  | usernameTextField =>
    rw [hrow (.head _), Hidden]
    grind
  | emailTextField =>
    rw [hrow (.tail _ (.head _)), Hidden]
    grind
  | passwordTextField =>
    rw [hrow (.tail _ (.tail _ (.head _))), Hidden]
    grind
  | registerBtn =>
    rw [hrow (.tail _ (.tail _ (.tail _ (.head _)))), Hidden]
    grind
  | loginBtn =>
    rw [hrow (.tail _ (.tail _ (.tail _ (.tail _ (.head _))))), Hidden]
    grind
  | termsBtn => exact ⟨hfoot.2.1, False.elim⟩
  | privacyBtn => exact ⟨hfoot.2.2, False.elim⟩

/-- No control calls the handlers of the two buttons. -/
theorem target_ne (c : SignUpControl) :
    c.target ≠ some .didTapTermsBtn ∧ c.target ≠ some .didTapPrivacyBtn := by
  cases c <;> exact ⟨nofun, nofun⟩

end SignUpControl

open SignUpControl in
/-- **What touches do on the sign-up screen**, after any passes, below the navigation bar: the same
as on the login screen, but for the rows of its own column, and that the two buttons of the foot
take the touches of the column and do nothing with them. -/
theorem signUp_touches (g₀ last : ViewGeometry) (earlier : List ViewGeometry) {w h : ℚ}
    (hlast : last.frame = screenBounds w h) (hs : 0 ≤ last.safeAreaTop) (hw : 50 < w)
    (hh : last.safeAreaTop + 100 ≤ h) :
    let l := SignUpLayout.screen.after g₀ (last :: earlier)
    (∀ c : SignUpControl, Answers (screenBounds w h) (frame l) addSubViews c ↔
      c.room last.safeAreaTop ≤ h) ∧
    (∀ c : SignUpControl, OutOfReach (screenBounds w h) (frame l) addSubViews c ↔
      c.Hidden last.safeAreaTop h) ∧
    ∀ p, (touched (screenBounds w h) (frame l) addSubViews p).bind target ≠ some .didTapTermsBtn ∧
      (touched (screenBounds w h) (frame l) addSubViews p).bind target ≠
        some .didTapPrivacyBtn := by
  intro l
  have hl : LaidOut w h last.safeAreaTop l := laidOut hlast (SignUpLayout.screen.after g₀ earlier)
  refine ⟨answers_iff hl hs hw hh, outOfReach_iff hl hs hw hh, fun p => ?_⟩
  cases touched (screenBounds w h) (frame l) addSubViews p with
  | none => exact ⟨nofun, nofun⟩
  | some c => exact target_ne c

/-- On a phone on its side, 375 points high with 32 points of safe area, no touch reaches the
sign-up button. -/
theorem signUp_touches_onSide :
    OutOfReach (screenBounds 812 375)
      (SignUpControl.frame (SignUpLayout.screen.after ⟨screenBounds 812 375, 32⟩
        [⟨screenBounds 812 375, 32⟩])) SignUpControl.addSubViews .registerBtn :=
  ((signUp_touches ⟨screenBounds 812 375, 32⟩ ⟨screenBounds 812 375, 32⟩ [] rfl (by norm_num)
    (by norm_num) (by norm_num)).2.1 .registerBtn).2 (Or.inr ⟨by norm_num, by norm_num⟩)

end InstaGLAM
