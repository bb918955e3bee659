import InstaGLAM.FirebaseManager.Backend
import InstaGLAM.Machinery.Callback

/-!
# FirebaseManager/Managers — `DatabaseManager` and `AuthManager`

The functions of the two managers as callback programs: a Swift closure passed as `completion` is a
function from its argument to a program, and a Firebase call with a trailing closure is a `request`.
The programs are generic in the events `ε`: one caller passes a completion that only reports, a
screen passes one that changes what is presented.
-/

namespace InstaGLAM

open Callback

variable {ε : Type*}

/-- Code that talks to Firebase. -/
abbrev Code (ε : Type*) := Cmd Request Reply ε

/-- `-[FIRDatabaseReference setValue:withCompletionBlock:]` of the dictionary of a record: the path
and the value are checked before anything is sent, and a bad one throws. -/
def DatabaseReference.setValue (path : Path) (value : UserRecord) (block : Reply → Code ε) :
    Code ε :=
  if isWritablePath path && isValidLeafValue value.username then
    .request (.setValue path value) block .done
  else .raise

namespace DatabaseManager

/-- `canCreateNewUser(email:username:completion:)`: no lookup is made. -/
def canCreateNewUser (_email _username : SwiftString) (completion : Bool → Code ε) : Code ε :=
  completion true

/-- The closure `insertNewUser` gives to `setValue`. -/
def didSetValue (completion : Bool → Code ε) (reply : Reply) : Code ε :=
  if !reply.error then completion true else completion false

/-- `insertNewUser(email:username:completion:)`; `child` throws on an invalid path. -/
def insertNewUser (email username : SwiftString) (completion : Bool → Code ε) : Code ε :=
  match child (safeDataBaseKey email) with
  | none => .raise
  | some path => DatabaseReference.setValue path ⟨username⟩ (didSetValue completion)

/-- The arguments `insertNewUser` gets to `setValue` with: the email makes a path, and the username
is not too long for the database. -/
def CanInsert (email username : SwiftString) : Prop :=
  email ≠ [] ∧ isValidLeafValue username = true

instance (email username : SwiftString) : Decidable (CanInsert email username) :=
  inferInstanceAs (Decidable (_ ∧ _))

theorem canInsert_iff_of_isValidEmail {email : SwiftString} (h : isValidEmail email = true)
    (username : SwiftString) : CanInsert email username ↔ utf8Length username ≤ 10485760 := by
  rw [CanInsert, isValidLeafValue, decide_eq_true_eq]
  exact and_iff_right (ne_nil_of_isValidEmail h)

end DatabaseManager

namespace AuthManager

/-- The closure `registerNewUser` gives to `createUser`. -/
def didCreateUser (username email : SwiftString) (completion : Bool → Code ε) (reply : Reply) :
    Code ε :=
  if !(!reply.error && reply.result) then completion false
  else DatabaseManager.insertNewUser email username fun inserted =>
    if inserted then completion true else completion false

/-- `registerNewUser(username:email:password:completion:)` -/
def registerNewUser (username email password : SwiftString) (completion : Bool → Code ε) :
    Code ε :=
  DatabaseManager.canCreateNewUser email username fun canCreate =>
    if canCreate then
      .request (.createUser email password) (didCreateUser username email completion) .done
    else completion false

/-- The closure `loginUser` gives to `signIn`. -/
def didSignIn (completion : Bool → Code ε) (reply : Reply) : Code ε :=
  if !(reply.result && !reply.error) then completion false else completion true

/-- `loginUser(username:email:password:completion:)`: the email is tried first, and a username by
itself is only printed. -/
def loginUser (username email : Option SwiftString) (password : SwiftString)
    (completion : Bool → Code ε) : Code ε :=
  match email with
  | some email => .request (.signIn email password) (didSignIn completion) .done
  | none =>
    match username with
    | some _ => .done
    | none => .done

/-- `logout(completion:)`: `signOut` is synchronous and may throw. -/
def logout (completion : Bool → Code ε) : Code ε :=
  .call .signOut fun reply => if !reply.error then completion true else completion false

/-! ## The programs without their dead branches

`canCreateNewUser` always reports true, and `inserted` is passed on as it is. -/

theorem registerNewUser_eq (username email password : SwiftString) (completion : Bool → Code ε) :
    registerNewUser username email password completion =
      .request (.createUser email password) (didCreateUser username email completion) .done := rfl

theorem didCreateUser_of_not_ok {username email : SwiftString} {completion : Bool → Code ε}
    {reply : Reply} (h : reply.ok = false) :
    didCreateUser username email completion reply = completion false := by
  rw [Reply.ok, Bool.and_comm] at h
  simp [didCreateUser, h]

theorem didCreateUser_of_ok {username email : SwiftString} {completion : Bool → Code ε}
    {reply : Reply} (h : reply.ok = true) :
    didCreateUser username email completion reply =
      DatabaseManager.insertNewUser email username completion := by
  have hcomp : (fun inserted => if inserted then completion true else completion false)
      = completion := by
    funext b
    cases b <;> rfl
  rw [Reply.ok, Bool.and_comm] at h
  simp [didCreateUser, h, hcomp]

theorem didSignIn_eq (completion : Bool → Code ε) (reply : Reply) :
    didSignIn completion reply = completion reply.ok := by
  rw [didSignIn, Reply.ok]
  cases reply.result && !reply.error <;> rfl

end AuthManager

theorem DatabaseManager.didSetValue_eq (completion : Bool → Code ε) (reply : Reply) :
    didSetValue completion reply = completion !reply.error := by
  rw [didSetValue]
  cases reply.error <;> rfl

/-- The path of a key is always writable, so only the value can be refused. -/
theorem DatabaseManager.insertNewUser_eq (email username : SwiftString)
    (completion : Bool → Code ε) :
    insertNewUser email username completion =
      if CanInsert email username then
        .request (.setValue (pathWithString (safeDataBaseKey email)) ⟨username⟩)
          (didSetValue completion) .done
      else .raise := by
  rw [insertNewUser, child_safeDataBaseKey]
  by_cases he : email = []
  · rw [if_pos he, if_neg fun h => h.1 he]
  · have hiff : CanInsert email username ↔ isValidLeafValue username = true := and_iff_right he
    rw [if_neg he]
    simp only [DatabaseReference.setValue, isWritablePath_safeDataBaseKey, Bool.true_and, hiff]

theorem DatabaseManager.insertNewUser_of_canInsert {email username : SwiftString}
    (h : CanInsert email username) (completion : Bool → Code ε) :
    insertNewUser email username completion =
      .request (.setValue (pathWithString (safeDataBaseKey email)) ⟨username⟩)
        (didSetValue completion) .done := by
  rw [insertNewUser_eq, if_pos h]

theorem DatabaseManager.insertNewUser_of_not {email username : SwiftString}
    (h : ¬ CanInsert email username) (completion : Bool → Code ε) :
    insertNewUser email username completion = .raise := by
  rw [insertNewUser_eq, if_neg h]

theorem AuthManager.logout_eq (completion : Bool → Code ε) :
    logout completion = .call .signOut fun reply => completion !reply.error := by
  rw [logout]
  congr 1
  funext reply
  cases reply.error <;> rfl

end InstaGLAM
