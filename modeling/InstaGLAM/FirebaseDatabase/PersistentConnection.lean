import InstaGLAM.FirebaseManager.Backend
import InstaGLAM.Machinery.Requests
import InstaGLAM.Machinery.Trace
import Mathlib.Data.Finset.Erase
import Mathlib.Data.Finset.Insert

/-!
# FirebaseDatabase/PersistentConnection — how the vendored SDK gets a write to the server

    setValue ──▸ outstandingPuts ──sendPut──▸ session ──answer──▸ completion block

`FPersistentConnection` keeps every put until it is answered: it sends a put at once if it may, and
sends all that are outstanding again whenever it has connected anew.  To connect it schedules a
retry, fetches a token, opens a socket and authenticates; it can be interrupted, closed or refused
at any point of this.  All its code runs on one serial queue, so an event is one block of that
queue.

The other end is the server of the database, whose code is not here.  In `Step` it serves whatever
request it likes of those on their way, in any session, and answers as it pleases; what a server may
be relied on for is said apart, as conditions on the steps of a run: it takes the requests of a
session in order (`InOrder`), and it has done with a session when the next one has begun, which
names this one as its last (`Ended`).

Of what can be sent, the model has what the app needs: puts without a hash, credentials and the
statistics of the first connection.  So nothing is listened to, there are no transactions to cancel
and no operations for a disconnect.  Delays are left open.
-/

namespace InstaGLAM.FirebaseDatabase

open Requests Trace

/-! ## The state of a connection -/

/-- `ConnectionState` -/
inductive ConnectionState where
  | disconnected
  | gettingToken
  | connecting
  | authenticating
  | connected
  deriving DecidableEq

/-- `FConnectionState`, of an `FConnection` that is not closed. -/
inductive FConnectionState where
  | connecting
  | connected
  deriving DecidableEq

/-- The reasons in `FConstants.m`. -/
inductive InterruptReason where
  | serverKill
  | waitingForOpen
  | repoInterrupt
  deriving DecidableEq

/-- What a request asks the server to do. -/
inductive Action (κ ν : Type*) where
  | auth (credential : String)
  | unauth
  | put (path : κ) (data : ν)
  | stats

/-- The blocks given to `sendAction:body:sensitive:callback:`, by what they have captured. -/
inductive Callback where
  | auth (restoreStateAfterComplete : Bool)
  | put (index : ℕ)
  | stats
  deriving DecidableEq

/-- `FPersistentConnection`, for paths `κ` and data `ν`.  Its `requestNumber` and `requestCBHash`
are in `session`, with all that is on its way on both sides; `realtime` is `nil` once it is closed;
`scheduledRetry` is that of its `retryHelper`, and has captured `forceRefresh`; `fetches` are the
calls of the token provider that are not answered.  A completion block is known by the index of its
put, and `completions` are the calls of these blocks, the latest first, with `true` for the status
"ok".  `failed` says that an assertion has not held or a request was made on a socket that is not
connected. -/
structure PersistentConnection (κ ν : Type*) where
  connectionState : ConnectionState
  firstConnection : Bool
  realtime : Option FConnectionState
  outstandingPuts : ℕ → Option (κ × ν)
  putCounter : ℕ
  interruptReasons : Finset InterruptReason
  scheduledRetry : Option Bool
  fetches : ℕ → Option Bool
  currentFetchTokenAttempt : ℕ
  authToken : Option String
  forceAuthTokenRefresh : Bool
  session : Channel (Action κ ν) Bool Callback
  completions : List (ℕ × Bool)
  failed : Bool

namespace PersistentConnection

variable {κ ν : Type*}

/-- `-initWithRepoInfo:dispatchQueue:config:`; an `FAtomicNumber` starts at 1. -/
def initial : PersistentConnection κ ν where
  connectionState := .disconnected
  firstConnection := true
  realtime := none
  outstandingPuts _ := none
  putCounter := 1
  interruptReasons := {.waitingForOpen}
  scheduledRetry := none
  fetches _ := none
  currentFetchTokenAttempt := 0
  authToken := none
  forceAuthTokenRefresh := false
  session := ⟨1, 1, fun _ => none, [], []⟩
  completions := []
  failed := false

variable (c : PersistentConnection κ ν)

/-- `NSAssert` -/
def nsAssert (holds : Bool) : PersistentConnection κ ν :=
  if holds then c else { c with failed := true }

/-- `-connected` -/
def connected : Bool :=
  c.connectionState == .authenticating || c.connectionState == .connected

/-- `-canSendWrites` -/
def canSendWrites : Bool := c.connectionState == .connected

/-! ## Connecting -/

/-- `-tryScheduleReconnect`, with `-shouldReconnect` and `-[FIRRetryHelper retry:]`, which replaces
the retry that is scheduled. -/
def tryScheduleReconnect : PersistentConnection κ ν :=
  if c.interruptReasons = ∅ then
    { c.nsAssert (c.connectionState == .disconnected) with
      scheduledRetry := some c.forceAuthTokenRefresh
      forceAuthTokenRefresh := false }
  else c

/-- The block of the retry. -/
def fetchToken (forceRefresh : Bool) : PersistentConnection κ ν :=
  let attempt := c.currentFetchTokenAttempt + 1
  { c.nsAssert (c.connectionState == .disconnected) with
    scheduledRetry := none
    connectionState := .gettingToken
    currentFetchTokenAttempt := attempt
    fetches := Function.update c.fetches attempt (some forceRefresh) }

/-- `-openNetworkConnectionWithToken:` -/
def openNetworkConnection (token : Option String) : PersistentConnection κ ν :=
  { c.nsAssert (c.connectionState == .gettingToken) with
    authToken := token
    connectionState := .connecting
    realtime := some .connecting }

/-- The block given to `fetchTokenForcingRefresh:withCallback:`; no result is an error. -/
def fetchedToken (attempt : ℕ) (result : Option (Option String)) : PersistentConnection κ ν :=
  let c := { c with fetches := Function.update c.fetches attempt none }
  if attempt = c.currentFetchTokenAttempt then
    match result with
    | none => tryScheduleReconnect { c with connectionState := .disconnected }
    | some token =>
      if c.connectionState = .gettingToken then c.openNetworkConnection token
      else c.nsAssert (c.connectionState == .disconnected)
  else c

/-- `-[FPersistentConnection onDisconnect:withReason:]`; the answers on their way are lost with the
socket. -/
def onDisconnect : PersistentConnection κ ν :=
  tryScheduleReconnect { c with
    connectionState := .disconnected, realtime := none, session := c.session.close }

/-- `-[FConnection close]`, and nothing if there is no connection. -/
def close : PersistentConnection κ ν :=
  match c.realtime with
  | none => c
  | some _ => c.onDisconnect

/-- `-interruptForReason:` -/
def interrupt (reason : InterruptReason) : PersistentConnection κ ν :=
  let c := { c with interruptReasons := insert reason c.interruptReasons }
  match c.realtime with
  | some _ => { c.close with realtime := none }
  | none => { c with scheduledRetry := none, connectionState := .disconnected }

/-- `-resumeForReason:` -/
def resume (reason : InterruptReason) : PersistentConnection κ ν :=
  let c := { c with interruptReasons := c.interruptReasons.erase reason }
  if c.connectionState = .disconnected then c.tryScheduleReconnect else c

/-- `reachabilityCallback` and `-enteringForeground` -/
def enteringForeground : PersistentConnection κ ν :=
  if c.connectionState = .disconnected then c.tryScheduleReconnect else c

/-! ## Requests -/

/-- `-sendAction:body:sensitive:callback:` with `-[FConnection sendRequest:sensitive:]`, which
throws unless it is connected. -/
def sendAction (action : Action κ ν) (onMessage : Option Callback) : PersistentConnection κ ν :=
  let rn := c.session.requestNumber
  let c := { c with session := { c.session with requestNumber := rn + 1 } }
  let sent : PersistentConnection κ ν :=
    match c.realtime with
    | none => c
    | some .connecting => { c with failed := true }
    | some .connected =>
      { c with session := { c.session with toServer := c.session.toServer ++ [(rn, action)] } }
  match onMessage with
  | none => sent
  | some callback =>
    { sent with session := { sent.session with
        callbacks := Function.update sent.session.callbacks rn (some callback) } }

/-- `-sendPut:` -/
def sendPut (index : ℕ) : PersistentConnection κ ν :=
  let c := c.nsAssert c.canSendWrites
  match c.outstandingPuts index with
  | none => { c with failed := true }
  | some (path, data) => c.sendAction (.put path data) (some (.put index))

/-- `-putInternal:forAction:forPath:withHash:withCallback:` -/
def putInternal (path : κ) (data : ν) : PersistentConnection κ ν :=
  let index := c.putCounter
  let c := { c with
    putCounter := index + 1
    outstandingPuts := Function.update c.outstandingPuts index (some (path, data)) }
  if c.canSendWrites then c.sendPut index else c

/-- The keys of `outstandingPuts`, sorted. -/
def outstanding : List ℕ :=
  (List.range c.putCounter).filter fun index => (c.outstandingPuts index).isSome

/-- `-restoreState` -/
def restoreState : PersistentConnection κ ν :=
  c.outstanding.foldl
    (fun c index => if (c.outstandingPuts index).isSome then c.sendPut index else c)
    (c.nsAssert (c.connectionState == .connected))

/-- `-sendAuthAndRestoreStateAfterComplete:`, up to the answer. -/
def sendAuth (restoreStateAfterComplete : Bool) : PersistentConnection κ ν :=
  let c := c.nsAssert c.connected
  match c.authToken with
  | none => { c with failed := true }
  | some token => c.sendAction (.auth token) (some (.auth restoreStateAfterComplete))

/-- `-restoreAuth` -/
def restoreAuth : PersistentConnection κ ν :=
  let c := c.nsAssert (c.connectionState == .connecting)
  match c.authToken with
  | none => restoreState { c with connectionState := .connected }
  | some _ => sendAuth { c with connectionState := .authenticating } true

/-- `-[FConnection onHandshake:]` and `-onReady:atTime:sessionID:` -/
def onReady : PersistentConnection κ ν :=
  let c := { c with realtime := some .connected, session := c.session.renew }
  let c := if c.firstConnection then c.sendAction .stats (some .stats) else c
  { c.restoreAuth with firstConnection := false }

/-- `-refreshAuthToken:`, with `-sendUnauth`. -/
def refreshAuthToken (token : Option String) : PersistentConnection κ ν :=
  let c := { c with authToken := token }
  if c.connected then
    match token with
    | some _ => c.sendAuth false
    | none => c.sendAction .unauth none
  else c

/-- `-onAuthRevokedWithStatus:andReason:` -/
def onAuthRevoked : PersistentConnection κ ν :=
  close { c with authToken := none, forceAuthTokenRefresh := true }

/-! ## Answers -/

/-- The block of `-sendAuthAndRestoreStateAfterComplete:`. -/
def authAnswered (restoreStateAfterComplete statusOk : Bool) : PersistentConnection κ ν :=
  let c := { c with connectionState := .connected }
  if statusOk then
    if restoreStateAfterComplete then c.restoreState else c
  else close { c with authToken := none, forceAuthTokenRefresh := true }

/-- The block of `-sendPut:`.  An index is that of one put for ever, so the current put is the one
sent if there is one. -/
def putAnswered (index : ℕ) (statusOk : Bool) : PersistentConnection κ ν :=
  match c.outstandingPuts index with
  | none => c
  | some _ =>
    { c with
      outstandingPuts := Function.update c.outstandingPuts index none
      completions := (index, statusOk) :: c.completions }

/-- Run a callback. -/
def call (statusOk : Bool) : Callback → PersistentConnection κ ν
  | .auth restoreStateAfterComplete => c.authAnswered restoreStateAfterComplete statusOk
  | .put index => c.putAnswered index statusOk
  | .stats => c

/-- `-onDataMessage:withMessage:` for the answer to request `rn`, with `rest` still to be read. -/
def onDataMessage (rn : ℕ) (statusOk : Bool) (rest : List (ℕ × Bool)) :
    PersistentConnection κ ν :=
  let read := { c with session := c.session.receive rn rest }
  match c.session.callbacks rn with
  | none => read
  | some callback => read.call statusOk callback

end PersistentConnection

/-! ## The connection and the server -/

/-- A tree of data seen as a map from paths `κ` to data of a kind `ν`: what becomes of the data at
`key` when `data` is put at `path`, `none` if it stays. -/
class DataTree (κ ν : Type*) where
  overwritten (path : κ) (data : ν) (key : κ) : Option (Option ν)

/-- The records of the app. -/
instance : DataTree Path UserRecord := ⟨InstaGLAM.overwritten⟩

/-- The connection of one client, and the data on the server. -/
structure World (κ ν : Type*) where
  connection : PersistentConnection κ ν
  records : κ → Option ν

/-- What can happen: a call from the app or from Firebase Auth, something that had been waited for,
or something at the server. -/
inductive Event (κ ν : Type*) where
  | setValue (path : κ) (data : ν)
  | interrupt (reason : InterruptReason)
  | resume (reason : InterruptReason)
  | enteringForeground
  | refreshAuthToken (token : Option String)
  | retry
  | fetchedToken (attempt : ℕ) (result : Option (Option String))
  | ready
  | closed
  | authRevoked
  | answered (rn : ℕ) (statusOk : Bool)
  | served (rn : ℕ) (action : Action κ ν) (statusOk : Bool)
  | otherWrote (changes : κ → Option (Option ν))

section Step

variable {κ ν : Type*} [DataTree κ ν]

/-- What a request does to the data if the server accepts it. -/
def Action.write (records : κ → Option ν) : Action κ ν → κ → Option ν
  | .put path data => fun key => (DataTree.overwritten path data key).getD (records key)
  | .auth _ | .unauth | .stats => records

/-- The server has served request `rn`, with `rest` still to be served; its answer goes out if the
client is still connected, in the session of the request. -/
def World.served (w : World κ ν) (rn : ℕ) (rest : List (ℕ × Action κ ν)) (action : Action κ ν)
    (statusOk : Bool) : World κ ν where
  connection := { w.connection with
    session :=
      if w.connection.realtime = some .connected ∧ w.connection.session.sessionStart ≤ rn then
        w.connection.session.serve rn rest statusOk
      else w.connection.session.absorb rest }
  records := if statusOk then action.write w.records else w.records

/-- **One step**, of the connection, of the network or of the server. -/
inductive Step : World κ ν → Event κ ν → World κ ν → Prop
  | setValue {c records path data} :
      Step ⟨c, records⟩ (.setValue path data) ⟨c.putInternal path data, records⟩
  | interrupt {c records reason} :
      Step ⟨c, records⟩ (.interrupt reason) ⟨c.interrupt reason, records⟩
  | resume {c records reason} : Step ⟨c, records⟩ (.resume reason) ⟨c.resume reason, records⟩
  | enteringForeground {c records} :
      Step ⟨c, records⟩ .enteringForeground ⟨c.enteringForeground, records⟩
  | refreshAuthToken {c records token} :
      Step ⟨c, records⟩ (.refreshAuthToken token) ⟨c.refreshAuthToken token, records⟩
  | retry {c records forceRefresh} : c.scheduledRetry = some forceRefresh →
      Step ⟨c, records⟩ .retry ⟨c.fetchToken forceRefresh, records⟩
  | fetchedToken {c records attempt forceRefresh result} : c.fetches attempt = some forceRefresh →
      Step ⟨c, records⟩ (.fetchedToken attempt result) ⟨c.fetchedToken attempt result, records⟩
  | ready {c records} : c.realtime = some .connecting →
      Step ⟨c, records⟩ .ready ⟨c.onReady, records⟩
  | closed {c records} : Step ⟨c, records⟩ .closed ⟨c.close, records⟩
  | authRevoked {c records} : c.realtime = some .connected →
      Step ⟨c, records⟩ .authRevoked ⟨c.onAuthRevoked, records⟩
  | answered {c records rn statusOk rest} : c.session.toClient = (rn, statusOk) :: rest →
      Step ⟨c, records⟩ (.answered rn statusOk) ⟨c.onDataMessage rn statusOk rest, records⟩
  | served {w rn action before after statusOk} :
      w.connection.session.toServer = before ++ (rn, action) :: after →
      Step w (.served rn action statusOk) (w.served rn (before ++ after) action statusOk)
  | otherWrote {c records changes} : Step ⟨c, records⟩ (.otherWrote changes)
      ⟨c, fun key => (changes key).getD (records key)⟩

end Step

/-! ## What a server may be relied on for -/

section Server

variable {κ ν : Type*}

/-- The server takes the requests of a session in the order in which they were sent. -/
def InOrder (w : World κ ν) (e : Event κ ν) : Prop :=
  ∀ rn action statusOk before after, e = .served rn action statusOk →
    w.connection.session.toServer = before ++ (rn, action) :: after →
      w.connection.session.IsNext before

/-- The server has done with the requests of a session when the next one has begun. -/
def Ended (w : World κ ν) (e : Event κ ν) : Prop :=
  ∀ rn action statusOk, e = .served rn action statusOk → w.connection.session.sessionStart ≤ rn

/-- Both together. -/
def Relied (w : World κ ν) (e : Event κ ν) : Prop := InOrder w e ∧ Ended w e

/-- A step that the server takes as it may be relied on to. -/
def StepWith [DataTree κ ν] (relied : World κ ν → Event κ ν → Prop) (w : World κ ν) (e : Event κ ν)
    (w' : World κ ν) : Prop := relied w e ∧ Step w e w'

/-- What does not concern the server is as it may be. -/
theorem inOrder_of_ne {w : World κ ν} {e : Event κ ν}
    (h : ∀ rn action statusOk, e ≠ .served rn action statusOk) : InOrder w e :=
  fun rn action statusOk _ _ he => absurd he (h rn action statusOk)

theorem ended_of_ne {w : World κ ν} {e : Event κ ν}
    (h : ∀ rn action statusOk, e ≠ .served rn action statusOk) : Ended w e :=
  fun rn action statusOk he => absurd he (h rn action statusOk)

/-- A request that nothing was sent before, or only in earlier sessions, is in order. -/
theorem inOrder_served {w : World κ ν} {rn : ℕ} {action : Action κ ν} {statusOk : Bool}
    {before after : List (ℕ × Action κ ν)}
    (hnodup : (w.connection.session.toServer.map Prod.fst).Nodup)
    (hserver : w.connection.session.toServer = before ++ (rn, action) :: after)
    (hnext : w.connection.session.IsNext before) : InOrder w (.served rn action statusOk) := by
  intro rn' action' statusOk' before' after' he hserver'
  obtain ⟨rfl, rfl, -⟩ := Event.served.inj he
  rw [hserver, List.map_append, List.map_cons, List.nodup_append] at hnodup
  obtain ⟨-, hafter, hbefore⟩ := hnodup
  -- the number is in one place only
  have hsplit : before = before' ∧ (rn, action) = (rn, action) ∧ after = after' := by
    refine (List.append_cons_inj_of_notMem (fun hmem => ?_) fun hmem => ?_).1
      (hserver.symm.trans hserver')
    · exact hbefore rn (List.mem_map.2 ⟨_, hmem, rfl⟩) rn List.mem_cons_self rfl
    · exact (List.nodup_cons.1 hafter).1 (List.mem_map.2 ⟨_, hmem, rfl⟩)
  exact hsplit.1 ▸ hnext

theorem relied_of_ne {w : World κ ν} {e : Event κ ν}
    (h : ∀ rn action statusOk, e ≠ .served rn action statusOk) : Relied w e :=
  ⟨inOrder_of_ne h, ended_of_ne h⟩

/-- The next request of the session may be served. -/
theorem relied_served {w : World κ ν} {rn : ℕ} {action : Action κ ν} {statusOk : Bool}
    {before after : List (ℕ × Action κ ν)} (h : w.connection.session.Numbered)
    (hserver : w.connection.session.toServer = before ++ (rn, action) :: after)
    (hnext : w.connection.session.IsNext before)
    (hsession : w.connection.session.sessionStart ≤ rn) :
    Relied w (.served rn action statusOk) := by
  refine ⟨inOrder_served (List.nodup_append.1 h.nodup).2.1 hserver hnext, ?_⟩
  intro rn' action' statusOk' he
  exact (Event.served.inj he).1 ▸ hsession

/-- Such a step, with what was sent before and after the request. -/
theorem step_served [DataTree κ ν] {w : World κ ν} {rn : ℕ} {action : Action κ ν} {statusOk : Bool}
    (before after : List (ℕ × Action κ ν))
    (hnodup : (w.connection.session.toServer.map Prod.fst).Nodup)
    (hserver : w.connection.session.toServer = before ++ (rn, action) :: after)
    (hnext : w.connection.session.IsNext before) :
    StepWith InOrder w (.served rn action statusOk)
      (w.served rn (before ++ after) action statusOk) :=
  ⟨inOrder_served hnodup hserver hnext, .served hserver⟩

end Server

end InstaGLAM.FirebaseDatabase
