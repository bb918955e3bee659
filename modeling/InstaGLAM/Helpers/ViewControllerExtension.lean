import InstaGLAM.FirebaseManager.Managers
import InstaGLAM.Machinery.Presentation

/-!
# Helpers/ViewControllerExtension — the screens over the tab bar

The helpers of `UIViewController+Extension.swift` that the onboarding screens share, and the state
they act on: Firebase as one device sees it, and the stack of screens presented over the tab bar.
What a screen does is a `UIEffect`, so a tap is a callback program over these; a block handed to
`DispatchQueue.main.async` runs as part of the callback that hands it over.

Every controller is created anew, so screens are told apart by the order they were created in.
-/

namespace InstaGLAM

open Callback Presentation

/-- A controller presented over the tab bar. -/
inductive Screen where
  | login (id : ℕ)
  | signUp (id : ℕ)
  | alert (alertText alertMessage : String)
  deriving DecidableEq

/-- What the onboarding code does to the screens; the presenter `none` is a tab of the tab bar. -/
inductive UIEffect where
  | viewDidAppear
  | presentLogin
  | presentSignUp (presenter : Screen)
  | showAlert (presenter : Option Screen) (alertText alertMessage : String)
  | dismiss (screen : Screen)
  deriving DecidableEq

/-- Code of a screen. -/
abbrev ScreenCode := Code UIEffect

/-- `showAlert(alertText:alertMessage:)` -/
def showAlert (presenter : Option Screen) (alertText alertMessage : String) : ScreenCode :=
  .emit (.showAlert presenter alertText alertMessage) .done

/-- `presentLogin()`, which `SettingsViewController` has a copy of. -/
def presentLogin : ScreenCode := .emit .presentLogin .done

/-! ## The state of the app on one device -/

/-- Firebase, the presented screens with the top first, the number of controllers created, and
whether Home has appeared yet. -/
structure App where
  firebase : Firebase Unit
  stack : List Screen
  created : ℕ
  appeared : Bool

namespace App

/-- A fresh start of the app. -/
def launched (fb : Firebase Unit) : App := ⟨fb, [], 0, false⟩

/-- Who is signed in. -/
def currentUser (s : App) : Option SwiftString := s.firebase.currentUser ()

/-- What a `UIEffect` does. -/
def perform : UIEffect → App → App
  | .viewDidAppear, s => { s with appeared := true }
  | .presentLogin, s =>
    { s with stack := present none (.login s.created) s.stack, created := s.created + 1 }
  | .presentSignUp presenter, s =>
    { s with stack := present (some presenter) (.signUp s.created) s.stack
             created := s.created + 1 }
  | .showAlert presenter alertText alertMessage, s =>
    { s with stack := present presenter (.alert alertText alertMessage) s.stack }
  | .dismiss screen, s => { s with stack := Presentation.dismiss screen s.stack }

/-- The answers of Firebase leave the screens alone. -/
def Serve (r : Request) (a : Reply) (s s' : App) : Prop :=
  ∃ fb, Firebase.Serve () r a s.firebase fb ∧ s' = { s with firebase := fb }

end App

end InstaGLAM
