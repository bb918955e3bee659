import InstaGLAM.FirebaseDatabase.PersistentConnection

/-!
# FirebaseDatabase/Blocks — what each block of the queue makes of a connection

An equation for every block, case by case: a socket is opened, authenticated or lost, the
outstanding puts are sent in one go, an answer is read and its callback run.  The invariants are
shown from these and never unfold a block again.
-/

namespace InstaGLAM.FirebaseDatabase

open Requests Trace

variable {κ ν : Type*}

namespace PersistentConnection

variable {c : PersistentConnection κ ν}

@[simp] theorem nsAssert_true : c.nsAssert true = c := rfl

/-- The first try after losing the connection is scheduled at once, unless it is interrupted. -/
theorem onDisconnect_eq : c.onDisconnect = { c with
    connectionState := .disconnected
    realtime := none
    session := c.session.close
    scheduledRetry :=
      if c.interruptReasons = ∅ then some c.forceAuthTokenRefresh else c.scheduledRetry
    forceAuthTokenRefresh :=
      if c.interruptReasons = ∅ then false else c.forceAuthTokenRefresh } := by
  by_cases h : c.interruptReasons = ∅ <;> simp [onDisconnect, tryScheduleReconnect, nsAssert, h]

theorem interrupt_of_none (hr : c.realtime = none) (reason : InterruptReason) :
    c.interrupt reason = { c with
      interruptReasons := insert reason c.interruptReasons
      scheduledRetry := none, connectionState := .disconnected } := by
  rw [interrupt]
  simp only [hr]

theorem interrupt_of_some {socket : FConnectionState} (hr : c.realtime = some socket)
    (reason : InterruptReason) : c.interrupt reason =
      onDisconnect { c with interruptReasons := insert reason c.interruptReasons } := by
  rw [interrupt]
  simp only [close, hr, onDisconnect_eq]

section FetchedToken

variable {attempt : ℕ}

theorem fetchedToken_of_ne (h : attempt ≠ c.currentFetchTokenAttempt)
    {result : Option (Option String)} : c.fetchedToken attempt result =
      { c with fetches := Function.update c.fetches attempt none } := if_neg h

theorem fetchedToken_none (h : attempt = c.currentFetchTokenAttempt) :
    c.fetchedToken attempt none = tryScheduleReconnect { c with
      fetches := Function.update c.fetches attempt none, connectionState := .disconnected } :=
  if_pos h

/-- A token opens a socket, unless the connection has been interrupted meanwhile. -/
theorem fetchedToken_some (h : attempt = c.currentFetchTokenAttempt)
    (hstate : c.connectionState = .disconnected ∨ c.connectionState = .gettingToken)
    {token : Option String} : c.fetchedToken attempt (some token) =
      if c.connectionState = .gettingToken then { c with
        fetches := Function.update c.fetches attempt none
        authToken := token, connectionState := .connecting, realtime := some .connecting }
      else { c with fetches := Function.update c.fetches attempt none } := by
  rcases hstate with hs | hs <;>
    simp [fetchedToken, h, hs, openNetworkConnection]

end FetchedToken

theorem sendAction_eq (h : c.realtime = some .connected) (action : Action κ ν)
    (onMessage : Option Callback) :
    c.sendAction action onMessage = { c with session := c.session.send action onMessage } := by
  cases onMessage <;> simp [sendAction, h, Channel.send]

/-- The request that sends an outstanding put. -/
def putRequest (index : ℕ) (put : κ × ν) : Action κ ν × Option Callback :=
  (.put put.1 put.2, some (.put index))

theorem sendPut_eq {index : ℕ} (put : κ × ν) (h : c.realtime = some .connected)
    (hstate : c.connectionState = .connected) (hput : c.outstandingPuts index = some put) :
    c.sendPut index =
      { c with session := c.session.send (putRequest index put).1 (putRequest index put).2 } := by
  have hwrites : c.canSendWrites = true := by rw [canSendWrites, hstate, beq_self_eq_true]
  simp only [sendPut, hwrites, nsAssert_true, hput]
  exact sendAction_eq h ..

/-- All that `restoreState` sends. -/
def putRequests (c : PersistentConnection κ ν) : List (Action κ ν × Option Callback) :=
  c.outstanding.filterMap fun index => (c.outstandingPuts index).map (putRequest index)

theorem isSome_of_mem_outstanding {index : ℕ} (h : index ∈ c.outstanding) :
    ∃ put, c.outstandingPuts index = some put :=
  Option.isSome_iff_exists.1 (List.mem_filter.1 h).2

theorem restoreState_eq (h : c.realtime = some .connected)
    (hstate : c.connectionState = .connected) :
    c.restoreState = { c with session := c.session.sendAll c.putRequests } := by
  have hloop : ∀ (keys : List ℕ) (session : Channel (Action κ ν) Bool Callback),
      (∀ index ∈ keys, index ∈ c.outstanding) →
      keys.foldl (fun c index => if (c.outstandingPuts index).isSome then c.sendPut index else c)
          { c with session } =
        { c with
          session := session.sendAll <|
            keys.filterMap fun index => (c.outstandingPuts index).map (putRequest index) } := by
    intro keys
    induction keys with
    | nil => exact fun _ _ => rfl
    | cons index keys ih =>
      intro session hkeys
      obtain ⟨put, hput⟩ := isSome_of_mem_outstanding (hkeys index List.mem_cons_self)
      have hsend := sendPut_eq (c := { c with session := session }) put h hstate hput
      have hrest := ih (session.send (putRequest index put).1 (putRequest index put).2)
        fun i hi => hkeys i (List.mem_cons_of_mem _ hi)
      rw [List.foldl_cons, if_pos (Option.isSome_of_eq_some hput), hsend, hrest,
        List.filterMap_cons_some (by rw [hput]; rfl)]
      rfl
  have hassert : (c.connectionState == .connected) = true := by rw [hstate, beq_self_eq_true]
  rw [restoreState, hassert, nsAssert_true]
  exact hloop c.outstanding c.session fun _ h => h

/-- The callbacks of what `restoreState` sends are those of the outstanding puts. -/
theorem putRequests_callbacks :
    (c.putRequests.filterMap Prod.snd) = c.outstanding.map Callback.put := by
  rw [putRequests, List.filterMap_filterMap, ← List.filterMap_eq_map]
  refine List.filterMap_congr fun index hindex => ?_
  obtain ⟨put, hput⟩ := isSome_of_mem_outstanding hindex
  rw [hput]
  rfl

theorem putInternal_eq (path : κ) (data : ν) (hstate : c.connectionState ≠ .connected) :
    c.putInternal path data = { c with
      putCounter := c.putCounter + 1
      outstandingPuts := Function.update c.outstandingPuts c.putCounter (some (path, data)) } := by
  rw [putInternal]
  exact if_neg (by simpa [canSendWrites] using hstate)

theorem putInternal_of_connected (path : κ) (data : ν) (h : c.realtime = some .connected)
    (hstate : c.connectionState = .connected) :
    c.putInternal path data = { c with
      putCounter := c.putCounter + 1
      outstandingPuts := Function.update c.outstandingPuts c.putCounter (some (path, data))
      session := c.session.send (.put path data) (some (.put c.putCounter)) } := by
  rw [putInternal]
  refine (if_pos (by simpa [canSendWrites] using hstate)).trans ?_
  exact sendPut_eq (path, data) h hstate (Function.update_self ..)

theorem sendAuth_eq {token : String} (h : c.realtime = some .connected)
    (hconnected : c.connected = true) (htoken : c.authToken = some token) (restore : Bool) :
    c.sendAuth restore = { c with
      session := c.session.send (.auth token) (some (.auth restore)) } := by
  rw [← sendAction_eq h]
  simp only [sendAuth, hconnected, nsAssert_true, htoken]

theorem refreshAuthToken_eq (h : c.realtime = some .connected) (hconnected : c.connected = true)
    (token : Option String) : c.refreshAuthToken token = { c with
      authToken := token
      session := c.session.send (token.elim .unauth .auth) (token.map fun _ => .auth false) } := by
  refine (if_pos hconnected).trans ?_
  cases token with
  | none => exact sendAction_eq (c := { c with authToken := none }) h ..
  | some token => exact sendAuth_eq (c := { c with authToken := some token }) h hconnected rfl false

/-- What a session begins with. -/
def begun (c : PersistentConnection κ ν) : Channel (Action κ ν) Bool Callback :=
  if c.firstConnection then c.session.renew.send .stats (some .stats) else c.session.renew

theorem numbered_begun (h : c.session.Numbered) (hidle : ∀ n, c.session.callbacks n = none) :
    c.begun.Numbered := by
  rw [begun]
  split
  · exact (h.renew hidle).send ..
  · exact h.renew hidle

theorem mem_inFlight_begun (h : c.session.Numbered) (hidle : ∀ n, c.session.callbacks n = none)
    {k : Callback} (hk : k ∈ c.begun.inFlight) : k = .stats := by
  have hnone : c.session.renew.inFlight = [] := Channel.inFlight_of_idle hidle
  rw [begun] at hk
  split at hk
  · rw [Channel.inFlight_send (h.renew hidle), hnone] at hk
    exact List.mem_singleton.1 hk
  · exact absurd (hnone ▸ hk) List.not_mem_nil

theorem onReady_eq {restored : PersistentConnection κ ν}
    (h : restoreAuth { c with realtime := some .connected, session := c.begun } = restored) :
    c.onReady = { restored with firstConnection := false } := by
  rw [← h]
  have hbegun : (if c.firstConnection then
        sendAction { c with realtime := some .connected, session := c.session.renew } .stats
          (some .stats)
      else { c with realtime := some .connected, session := c.session.renew }) =
      { c with realtime := some .connected, session := c.begun } := by
    cases hfirst : c.firstConnection
    · simp [begun, hfirst]
    · simp only [if_true, begun, hfirst]
      exact sendAction_eq rfl ..
  exact congrArg
    (fun c : PersistentConnection κ ν => { c.restoreAuth with firstConnection := false }) hbegun

/-- Without a token the puts are sent at once. -/
theorem onReady_none (hstate : c.connectionState = .connecting) (htoken : c.authToken = none) :
    c.onReady = { c with
      realtime := some .connected, connectionState := .connected
      session := c.begun.sendAll c.putRequests, firstConnection := false } := by
  have hassert : (c.connectionState == .connecting) = true := by rw [hstate, beq_self_eq_true]
  have hrestore : restoreAuth { c with realtime := some .connected, session := c.begun } =
      restoreState { c with
        realtime := some .connected, connectionState := .connected, session := c.begun } := by
    simp only [restoreAuth, hassert, nsAssert_true, htoken]
  exact onReady_eq (hrestore.trans (restoreState_eq rfl rfl))

/-- With a token the credentials go first, and the puts wait for the answer. -/
theorem onReady_some {token : String} (hstate : c.connectionState = .connecting)
    (htoken : c.authToken = some token) :
    c.onReady = { c with
      realtime := some .connected, connectionState := .authenticating
      session := c.begun.send (.auth token) (some (.auth true)), firstConnection := false } := by
  have hassert : (c.connectionState == .connecting) = true := by rw [hstate, beq_self_eq_true]
  have hsend : restoreAuth { c with realtime := some .connected, session := c.begun } =
      sendAuth { c with
        realtime := some .connected, connectionState := .authenticating
        session := c.begun } true := by
    simp only [restoreAuth, hassert, nsAssert_true, htoken]
  exact onReady_eq (hsend.trans (sendAuth_eq (c := { c with
    realtime := some .connected, connectionState := .authenticating, session := c.begun })
    rfl rfl htoken true))

/-! ### Answers -/

theorem onDataMessage_none {rn : ℕ} (hk : c.session.callbacks rn = none) (statusOk : Bool)
    (rest : List (ℕ × Bool)) : c.onDataMessage rn statusOk rest =
      { c with session := c.session.receive rn rest } := by
  rw [onDataMessage, hk]

theorem onDataMessage_some {rn : ℕ} {k : Callback} (hk : c.session.callbacks rn = some k)
    (statusOk : Bool) (rest : List (ℕ × Bool)) : c.onDataMessage rn statusOk rest =
      call { c with session := c.session.receive rn rest } statusOk k := by
  rw [onDataMessage, hk]

/-- Refused credentials close the connection. -/
theorem authAnswered_refused (hr : c.realtime = some .connected) (restore : Bool) :
    c.authAnswered restore false = onDisconnect { c with
      connectionState := .connected, authToken := none, forceAuthTokenRefresh := true } := by
  simp [authAnswered, close, hr]

/-- The outstanding puts are sent when the credentials are accepted. -/
theorem authAnswered_restore (hr : c.realtime = some .connected) :
    c.authAnswered true true = { c with
      connectionState := .connected, session := c.session.sendAll c.putRequests } :=
  restoreState_eq (c := { c with connectionState := .connected }) hr rfl

theorem putAnswered_some {index : ℕ} {put : κ × ν} (hput : c.outstandingPuts index = some put)
    (statusOk : Bool) : c.putAnswered index statusOk = { c with
      outstandingPuts := Function.update c.outstandingPuts index none
      completions := (index, statusOk) :: c.completions } := by
  simp only [putAnswered, hput]

/-! ### Outstanding puts -/

theorem nodup_outstanding (c : PersistentConnection κ ν) : c.outstanding.Nodup :=
  List.nodup_range.filter _

/-- A new put is the last of the outstanding ones. -/
theorem outstanding_append (c : PersistentConnection κ ν) (put : κ × ν) :
    outstanding { c with
      putCounter := c.putCounter + 1
      outstandingPuts := Function.update c.outstandingPuts c.putCounter (some put) } =
    c.outstanding ++ [c.putCounter] := by
  rw [outstanding, outstanding, List.range_succ, List.filter_append]
  congr 1
  · refine List.filter_congr fun i hi => congrArg Option.isSome ?_
    exact Function.update_of_ne (List.mem_range.1 hi).ne ..
  · simp

/-- The first of the outstanding puts has been answered. -/
theorem outstanding_tail {index : ℕ} {rest : List ℕ} (h : c.outstanding = index :: rest) :
    outstanding { c with outstandingPuts := Function.update c.outstandingPuts index none } =
      rest := by
  have hnodup : (index :: rest).Nodup := h ▸ c.nodup_outstanding
  have hsame : outstanding { c with
      outstandingPuts := Function.update c.outstandingPuts index none } =
      c.outstanding.filter (· ≠ index) := by
    rw [outstanding, outstanding, List.filter_filter]
    refine List.filter_congr fun i _ => ?_
    by_cases hi : i = index
    · simp [hi]
    · simp [hi]
  rw [hsame, h, List.filter_cons_of_neg (by simp), List.filter_eq_self]
  exact fun i hi => decide_eq_true fun he => (List.nodup_cons.1 hnodup).1 (he ▸ hi)

end PersistentConnection

end InstaGLAM.FirebaseDatabase
