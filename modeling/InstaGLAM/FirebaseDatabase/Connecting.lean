import InstaGLAM.FirebaseDatabase.Blocks

/-!
# FirebaseDatabase/Connecting — a connection that breaks at any point finds its way back

    disconnected ─retry─▸ gettingToken ─token─▸ connecting ─ready─▸ authenticating ─ok─▸ connected

What holds of the connection after every block, whatever the server does: the socket and the
scheduled retry are those of its state, and callbacks are kept on a connected socket only.
-/

namespace InstaGLAM.FirebaseDatabase

open Requests Trace PersistentConnection

variable {κ ν : Type*}

/-! ## What holds after every block -/

/-- The socket that belongs to a state. -/
def ConnectionState.socket : ConnectionState → Option FConnectionState
  | .disconnected | .gettingToken => none
  | .connecting => some .connecting
  | .authenticating | .connected => some .connected

/-- The states of the parts that make the connection agree, and no assertion has failed. -/
structure Control (c : PersistentConnection κ ν) : Prop where
  failed : c.failed = false
  realtime : c.realtime = c.connectionState.socket
  scheduled : c.scheduledRetry.isSome ↔
    c.connectionState = .disconnected ∧ c.interruptReasons = ∅
  uninterrupted : c.connectionState ≠ .disconnected → c.interruptReasons = ∅
  fetching : c.connectionState = .gettingToken → (c.fetches c.currentFetchTokenAttempt).isSome
  fetched : (c.fetches c.currentFetchTokenAttempt).isSome →
    c.connectionState = .disconnected ∨ c.connectionState = .gettingToken
  attempts : ∀ attempt, (c.fetches attempt).isSome → attempt ≤ c.currentFetchTokenAttempt

/-- Besides, callbacks are kept on a connected socket only. -/
structure Steady (c : PersistentConnection κ ν) : Prop extends Control c where
  idle : c.realtime ≠ some .connected → ∀ n, c.session.callbacks n = none

theorem steady_initial : Steady (initial : PersistentConnection κ ν) where
  failed := rfl
  realtime := rfl
  scheduled := by simp [initial]
  uninterrupted h := absurd rfl h
  fetching := nofun
  fetched := nofun
  attempts _ := nofun
  idle _ _ := rfl

/-! ## Whatever the server does -/

section Steady

variable {c : PersistentConnection κ ν}

theorem Control.scheduledRetry_eq (h : Control c) (hstate : c.connectionState ≠ .disconnected) :
    c.scheduledRetry = none := by
  cases hs : c.scheduledRetry with
  | none => rfl
  | some forceRefresh =>
    exact absurd (h.scheduled.1 (Option.isSome_of_eq_some hs)).1 hstate

theorem Control.scheduledRetry_eq_of_interrupted (h : Control c) (hne : c.interruptReasons ≠ ∅) :
    c.scheduledRetry = none := by
  cases hs : c.scheduledRetry with
  | none => rfl
  | some forceRefresh =>
    exact absurd (h.scheduled.1 (Option.isSome_of_eq_some hs)).2 hne

theorem Control.state_of_connecting (h : Control c) (hr : c.realtime = some .connecting) :
    c.connectionState = .connecting := by
  have hsocket := h.realtime.symm.trans hr
  cases hs : c.connectionState <;> simp [hs, ConnectionState.socket] at hsocket ⊢

theorem Control.state_of_connected (h : Control c) (hr : c.realtime = some .connected) :
    c.connectionState = .authenticating ∨ c.connectionState = .connected := by
  have hsocket := h.realtime.symm.trans hr
  cases hs : c.connectionState <;> simp [hs, ConnectionState.socket] at hsocket ⊢

theorem Control.state_ne_of_socket (h : Control c) {socket : FConnectionState}
    (hr : c.realtime = some socket) : c.connectionState ≠ .disconnected := by
  intro hs
  rw [h.realtime, hs] at hr
  exact nomatch hr

theorem Control.realtime_of_state (h : Control c) (hstate : c.connectionState = .disconnected) :
    c.realtime = none := by
  rw [h.realtime, hstate, ConnectionState.socket]

theorem Control.ne_connected_of_fetched (h : Control c)
    (hf : (c.fetches c.currentFetchTokenAttempt).isSome) : c.realtime = none := by
  rcases h.fetched hf with hs | hs <;> rw [h.realtime, hs, ConnectionState.socket]

/-- On a connected socket there may be callbacks. -/
theorem Steady.of_connected (h : Control c) (hr : c.realtime = some .connected) : Steady c :=
  ⟨h, fun hne => absurd hr hne⟩

/-- Callbacks are on a connected socket. -/
theorem Steady.realtime_of_callback (h : Steady c) {rn : ℕ} {k : Callback}
    (hk : c.session.callbacks rn = some k) : c.realtime = some .connected := by
  by_contra hne
  exact absurd (hk.symm.trans (h.idle hne rn)) (Option.some_ne_none k)

/-! ### Losing and seeking a connection -/

theorem steady_of_disconnected (hstate : c.connectionState = .disconnected)
    (hfailed : c.failed = false) (hrealtime : c.realtime = none)
    (hscheduled : c.scheduledRetry.isSome ↔ c.interruptReasons = ∅)
    (hattempts : ∀ attempt, (c.fetches attempt).isSome → attempt ≤ c.currentFetchTokenAttempt)
    (hidle : ∀ n, c.session.callbacks n = none) : Steady c where
  failed := hfailed
  realtime := by rw [hrealtime, hstate, ConnectionState.socket]
  scheduled := hscheduled.trans (and_iff_right hstate).symm
  uninterrupted h := absurd hstate h
  fetching h := nomatch hstate.symm.trans h
  fetched _ := Or.inl hstate
  attempts := hattempts
  idle _ := hidle

/-- Without a connection, a retry is scheduled unless there is a reason not to. -/
theorem steady_tryScheduleReconnect (hstate : c.connectionState = .disconnected)
    (hfailed : c.failed = false) (hrealtime : c.realtime = none)
    (hscheduled : c.interruptReasons ≠ ∅ → c.scheduledRetry = none)
    (hattempts : ∀ attempt, (c.fetches attempt).isSome → attempt ≤ c.currentFetchTokenAttempt)
    (hidle : ∀ n, c.session.callbacks n = none) : Steady c.tryScheduleReconnect := by
  by_cases hreasons : c.interruptReasons = ∅
  · have heq : c.tryScheduleReconnect = { c with
        scheduledRetry := some c.forceAuthTokenRefresh, forceAuthTokenRefresh := false } := by
      simp [tryScheduleReconnect, hreasons, hstate]
    rw [heq]
    exact steady_of_disconnected hstate hfailed hrealtime (iff_of_true rfl hreasons) hattempts hidle
  · have heq : c.tryScheduleReconnect = c := if_neg hreasons
    rw [heq]
    refine steady_of_disconnected hstate hfailed hrealtime ?_ hattempts hidle
    exact iff_of_false (by simp [hscheduled hreasons]) hreasons

theorem steady_onDisconnect (h : Control c) (hstate : c.connectionState ≠ .disconnected) :
    Steady c.onDisconnect :=
  steady_tryScheduleReconnect rfl h.failed rfl (fun _ => h.scheduledRetry_eq hstate) h.attempts
    fun _ => rfl

theorem steady_close (h : Steady c) : Steady c.close := by
  cases hr : c.realtime with
  | none => rwa [PersistentConnection.close, hr]
  | some socket =>
    rw [PersistentConnection.close, hr]
    exact steady_onDisconnect h.toControl (h.state_ne_of_socket hr)

theorem steady_interrupt (h : Steady c) (reason : InterruptReason) :
    Steady (c.interrupt reason) := by
  have hreasons : insert reason c.interruptReasons ≠ ∅ := Finset.insert_ne_empty _ _
  cases hr : c.realtime with
  | none =>
    rw [interrupt_of_none hr]
    exact steady_of_disconnected rfl h.failed hr (iff_of_false (by simp) hreasons) h.attempts
      (h.idle (by simp [hr]))
  | some socket =>
    rw [interrupt_of_some hr]
    exact steady_tryScheduleReconnect rfl h.failed rfl
      (fun _ => h.scheduledRetry_eq (h.state_ne_of_socket hr)) h.attempts fun _ => rfl

/-- A try may be scheduled again, with fewer reasons not to. -/
theorem steady_rescheduled (h : Steady c) (hstate : c.connectionState = .disconnected)
    {reasons : Finset InterruptReason} (hreasons : c.interruptReasons = ∅ → reasons = ∅) :
    Steady (tryScheduleReconnect { c with interruptReasons := reasons }) := by
  have hrealtime := h.realtime_of_state hstate
  exact steady_tryScheduleReconnect hstate h.failed hrealtime
    (fun hne => h.scheduledRetry_eq_of_interrupted fun hnone => hne (hreasons hnone)) h.attempts
    (h.idle (by simp [hrealtime]))

/-- Unless it is disconnected, a connection has no reason to be interrupted that it could lose. -/
theorem Control.erase_eq (h : Control c) (hstate : c.connectionState ≠ .disconnected)
    (reason : InterruptReason) : c.interruptReasons.erase reason = c.interruptReasons := by
  simp [h.uninterrupted hstate]

theorem steady_resume (h : Steady c) (reason : InterruptReason) : Steady (c.resume reason) := by
  by_cases hstate : c.connectionState = .disconnected
  · have hreasons : c.interruptReasons = ∅ → c.interruptReasons.erase reason = ∅ := fun hnone => by
      simp [hnone]
    have hsteady := steady_rescheduled h hstate hreasons
    rwa [PersistentConnection.resume, if_pos hstate]
  · rw [PersistentConnection.resume, if_neg hstate, h.erase_eq hstate]
    exact h

theorem steady_enteringForeground (h : Steady c) : Steady c.enteringForeground := by
  by_cases hstate : c.connectionState = .disconnected
  · have hsteady := steady_rescheduled h hstate id
    rwa [PersistentConnection.enteringForeground, if_pos hstate]
  · rwa [PersistentConnection.enteringForeground, if_neg hstate]

theorem steady_fetchToken (h : Steady c) {forceRefresh : Bool}
    (hs : c.scheduledRetry = some forceRefresh) : Steady (c.fetchToken forceRefresh) := by
  obtain ⟨hstate, hreasons⟩ := h.scheduled.1 (Option.isSome_of_eq_some hs)
  have hassert : (c.connectionState == .disconnected) = true := by rw [hstate, beq_self_eq_true]
  have hrealtime := h.realtime_of_state hstate
  rw [PersistentConnection.fetchToken, hassert]
  exact {
    failed := h.failed
    realtime := hrealtime
    scheduled := iff_of_false nofun fun h => nomatch h.1
    uninterrupted := fun _ => hreasons
    fetching := fun _ => by simp
    fetched := fun _ => Or.inr rfl
    attempts := fun attempt ha => by
      by_cases he : attempt = c.currentFetchTokenAttempt + 1
      · exact he.le
      · exact Nat.le_succ_of_le (h.attempts attempt (by simpa [Function.update_of_ne he] using ha))
    idle := h.idle }

/-- The answer of the token provider: the token of an earlier attempt, or one that comes after an
interruption, opens nothing. -/
theorem steady_fetchedToken (h : Steady c) {attempt : ℕ} {forceRefresh : Bool}
    (hf : c.fetches attempt = some forceRefresh) (result : Option (Option String)) :
    Steady (c.fetchedToken attempt result) := by
  have hattempts : ∀ a, (Function.update c.fetches attempt none a).isSome →
      a ≤ c.currentFetchTokenAttempt := fun a ha => by
    by_cases he : a = attempt
    · rw [he, Function.update_self] at ha
      exact nomatch ha
    · exact h.attempts a (by rwa [Function.update_of_ne he] at ha)
  by_cases hcurrent : attempt = c.currentFetchTokenAttempt
  · have hsome := hcurrent ▸ Option.isSome_of_eq_some hf
    have hstate := h.fetched hsome
    have hrealtime := h.ne_connected_of_fetched hsome
    have hidle := h.idle (by simp [hrealtime])
    cases result with
    | none =>
      rw [fetchedToken_none hcurrent]
      refine steady_tryScheduleReconnect rfl h.failed hrealtime (fun hne => ?_) hattempts hidle
      exact h.scheduledRetry_eq_of_interrupted hne
    | some token =>
      rw [fetchedToken_some hcurrent hstate]
      rcases hstate with hs | hs
      · rw [if_neg (by simp [hs])]
        exact steady_of_disconnected hs h.failed hrealtime (h.scheduled.trans (and_iff_right hs))
          hattempts hidle
      · have hne : c.connectionState ≠ .disconnected := by simp [hs]
        have hnofetch :
            Function.update c.fetches attempt none c.currentFetchTokenAttempt = none := by
          rw [hcurrent, Function.update_self]
        rw [if_pos hs]
        exact {
          failed := h.failed
          realtime := rfl
          scheduled := iff_of_false (by simp [h.scheduledRetry_eq hne]) fun h => nomatch h.1
          uninterrupted := fun _ => h.uninterrupted hne
          fetching := nofun
          fetched := fun hf => by simp [hnofetch] at hf
          attempts := hattempts
          idle := fun _ => hidle }
  · rw [fetchedToken_of_ne hcurrent]
    have hfetches : Function.update c.fetches attempt none c.currentFetchTokenAttempt =
        c.fetches c.currentFetchTokenAttempt := Function.update_of_ne (Ne.symm hcurrent) ..
    exact {
      failed := h.failed
      realtime := h.realtime
      scheduled := h.scheduled
      uninterrupted := h.uninterrupted
      fetching := fun hs => (congrArg Option.isSome hfetches).trans (h.fetching hs)
      fetched := fun hf => h.fetched ((congrArg Option.isSome hfetches).symm.trans hf)
      attempts := hattempts
      idle := h.idle }

/-! ### Sending -/

/-- `Control` does not look at the traffic. -/
theorem Control.withTraffic (h : Control c) (outstandingPuts : ℕ → Option (κ × ν)) (putCounter : ℕ)
    (authToken : Option String) (forceAuthTokenRefresh : Bool)
    (session : Channel (Action κ ν) Bool Callback) (completions : List (ℕ × Bool))
    (firstConnection : Bool) :
    Control { c with
      outstandingPuts, putCounter, authToken, forceAuthTokenRefresh, session, completions
      firstConnection } :=
  ⟨h.failed, h.realtime, h.scheduled, h.uninterrupted, h.fetching, h.fetched, h.attempts⟩

/-- A connected client has a connected socket. -/
theorem Control.realtime_of_connected (h : Control c) (hconnected : c.connected = true) :
    c.realtime = some .connected := by
  have hstate : c.connectionState = .authenticating ∨ c.connectionState = .connected := by
    simpa [PersistentConnection.connected] using hconnected
  rcases hstate with hs | hs <;> rw [h.realtime, hs, ConnectionState.socket]

theorem steady_putInternal (h : Steady c) (path : κ) (data : ν) :
    Steady (c.putInternal path data) := by
  by_cases hstate : c.connectionState = .connected
  · have hrealtime : c.realtime = some .connected := by
      rw [h.realtime, hstate, ConnectionState.socket]
    rw [putInternal_of_connected path data hrealtime hstate]
    exact .of_connected (h.withTraffic ..) hrealtime
  · rw [putInternal_eq path data hstate]
    exact ⟨h.withTraffic .., h.idle⟩

theorem steady_refreshAuthToken (h : Steady c) (token : Option String) :
    Steady (c.refreshAuthToken token) := by
  by_cases hconnected : c.connected = true
  · have hrealtime := h.realtime_of_connected hconnected
    rw [refreshAuthToken_eq hrealtime hconnected]
    exact .of_connected (h.withTraffic ..) hrealtime
  · have heq : c.refreshAuthToken token = { c with authToken := token } := if_neg hconnected
    rw [heq]
    exact ⟨h.withTraffic .., h.idle⟩

theorem Control.established (h : Control c) (hdisconnected : c.connectionState ≠ .disconnected)
    (hgetting : c.connectionState ≠ .gettingToken) {state : ConnectionState}
    {realtime : Option FConnectionState} (hs : state.socket = some .connected)
    (hr : realtime = some .connected) : Control { c with connectionState := state, realtime } := by
  have hstate : state ≠ .disconnected ∧ state ≠ .gettingToken := by
    constructor <;> rintro rfl <;> exact nomatch hs
  exact {
    failed := h.failed
    realtime := hr.trans hs.symm
    scheduled := iff_of_false (by simp [h.scheduledRetry_eq hdisconnected]) fun he => hstate.1 he.1
    uninterrupted := fun _ => h.uninterrupted hdisconnected
    fetching := fun he => absurd he hstate.2
    fetched := fun hf => ((h.fetched hf).elim hdisconnected hgetting).elim
    attempts := h.attempts }

theorem steady_onReady (h : Steady c) (hr : c.realtime = some .connecting) : Steady c.onReady := by
  have hstate := h.state_of_connecting hr
  have hestablished : ∀ {state : ConnectionState}, state.socket = some .connected →
      Control { c with connectionState := state, realtime := some .connected } := fun hs =>
    h.established (by simp [hstate]) (by simp [hstate]) hs rfl
  obtain htoken | ⟨token, htoken⟩ := Option.eq_none_or_eq_some c.authToken
  · rw [onReady_none hstate htoken]
    exact .of_connected ((hestablished rfl).withTraffic ..) rfl
  · rw [onReady_some hstate htoken]
    exact .of_connected ((hestablished rfl).withTraffic ..) rfl

theorem steady_onAuthRevoked (h : Steady c) : Steady c.onAuthRevoked :=
  steady_close ⟨h.withTraffic .., h.idle⟩

/-! ### Reading answers -/

/-- The answer to credentials leaves a connected client behind, or none. -/
theorem Control.authAnswered (h : Control c) (hr : c.realtime = some .connected) :
    Control { c with connectionState := .connected } := by
  have hgetting : c.connectionState ≠ .gettingToken := fun hs => by
    rcases h.state_of_connected hr with he | he <;> exact nomatch he.symm.trans hs
  exact h.established (h.state_ne_of_socket hr) hgetting rfl hr

/-- A callback is called, of any request of the session. -/
theorem steady_call (h : Control c) (hr : c.realtime = some .connected) (statusOk : Bool)
    (k : Callback) : Steady (c.call statusOk k) := by
  have hauth := h.authAnswered hr
  cases k with
  | stats => exact .of_connected h hr
  | put index =>
    cases hput : c.outstandingPuts index with
    | none =>
      rw [call, putAnswered, hput]
      exact .of_connected h hr
    | some put =>
      rw [call, putAnswered_some hput]
      exact .of_connected (h.withTraffic ..) hr
  | auth restore =>
    cases statusOk with
    | false =>
      rw [call, authAnswered_refused hr]
      exact steady_onDisconnect (hauth.withTraffic ..) (by simp)
    | true =>
      cases restore with
      | false => exact .of_connected hauth hr
      | true =>
        rw [call, authAnswered_restore hr]
        exact .of_connected (hauth.withTraffic ..) hr

theorem steady_onDataMessage (h : Steady c) (rn : ℕ) (statusOk : Bool) (rest : List (ℕ × Bool)) :
    Steady (c.onDataMessage rn statusOk rest) := by
  cases hk : c.session.callbacks rn with
  | none =>
    rw [onDataMessage_none hk]
    refine ⟨h.withTraffic .., fun hne n => ?_⟩
    show Function.update c.session.callbacks rn none n = none
    rw [Function.update_apply, h.idle hne n, ite_self]
  | some k =>
    have hread : Control { c with session := c.session.receive rn rest } := h.withTraffic ..
    rw [onDataMessage_some hk]
    exact steady_call hread (h.realtime_of_callback hk) statusOk k

/-! ### Every run -/

theorem steady_served {w : World κ ν} [DataTree κ ν] (h : Steady w.connection) (rn : ℕ)
    (action : Action κ ν) (rest : List (ℕ × Action κ ν)) (statusOk : Bool) :
    Steady (w.served rn rest action statusOk).connection := by
  refine ⟨h.withTraffic .., fun hne n => ?_⟩
  have hidle := h.idle hne n
  rw [World.served]
  split <;> exact hidle

variable [DataTree κ ν] {records : κ → Option ν} {trace : List (Event κ ν)} {w : World κ ν}

theorem steady_of_run (h : Run Step ⟨initial, records⟩ trace w) : Steady w.connection := by
  refine h.invariant (I := fun _ w => Steady w.connection) steady_initial fun _ w e w' hw hs => ?_
  cases hs with
  | setValue => exact steady_putInternal hw ..
  | interrupt => exact steady_interrupt hw _
  | resume => exact steady_resume hw _
  | enteringForeground => exact steady_enteringForeground hw
  | refreshAuthToken => exact steady_refreshAuthToken hw _
  | retry hretry => exact steady_fetchToken hw hretry
  | fetchedToken hfetch => exact steady_fetchedToken hw hfetch _
  | ready hr => exact steady_onReady hw hr
  | closed => exact steady_close hw
  | authRevoked => exact steady_onAuthRevoked hw
  | answered hclient => exact steady_onDataMessage hw ..
  | served hserver => exact steady_served hw ..
  | otherWrote => exact hw

/-- **No assertion fails**, no request is made without a connected socket, and while there is a
reason to interrupt there is neither a socket nor a retry, whatever the server does. -/
theorem never_failed (h : Run Step ⟨initial, records⟩ trace w) :
    w.connection.failed = false ∧
    w.connection.realtime = w.connection.connectionState.socket ∧
    (w.connection.interruptReasons ≠ ∅ →
      w.connection.connectionState = .disconnected ∧ w.connection.scheduledRetry = none) := by
  have hsteady := steady_of_run h
  refine ⟨hsteady.failed, hsteady.realtime, fun hreasons => ⟨?_, ?_⟩⟩
  · by_contra hstate
    exact hreasons (hsteady.uninterrupted hstate)
  · exact hsteady.scheduledRetry_eq_of_interrupted hreasons

/-- A put is served before the statistics, and then the app goes offline. -/
def outOfOrder : List (Event Path UserRecord) :=
  [.interrupt .repoInterrupt, .served 1 .stats true, .answered 2 true,
    .served 2 (.put ["ruth-c-co".toList] ⟨"ruth".toList⟩) true, .ready, .fetchedToken 1 (some none),
    .retry, .setValue ["ruth-c-co".toList] ⟨"ruth".toList⟩, .resume .waitingForOpen]

theorem never_failed_outOfOrder : ∃ w, Run Step ⟨initial, fun _ => none⟩ outOfOrder w ∧
    w.connection.failed = false ∧ w.connection.connectionState = .disconnected ∧
    w.connection.scheduledRetry = none := by
  have hfetched : ∀ {c : PersistentConnection Path UserRecord} {records : Path → Option UserRecord},
      c.fetches 1 = some false → Step ⟨c, records⟩ (.fetchedToken 1 (some none))
        ⟨c.fetchedToken 1 (some none), records⟩ := .fetchedToken
  have hserved : ∀ {w : World Path UserRecord} {rn action} (before after),
      w.connection.session.toServer = before ++ (rn, action) :: after →
      Step w (.served rn action true) (w.served rn (before ++ after) action true) :=
    fun _ _ => .served
  have hrun : ∃ w, Run Step ⟨initial, fun _ => none⟩ outOfOrder w ∧
      w.connection.interruptReasons = {.repoInterrupt} :=
    ⟨_, .cons (.cons (.cons (.cons (.cons (.cons (.cons (.cons (.cons .nil .resume) .setValue)
      (.retry rfl)) (hfetched rfl)) (.ready rfl)) (hserved [(1, .stats)] [] rfl))
      (.answered rfl)) (hserved [] [] rfl)) .interrupt, rfl⟩
  obtain ⟨w, hrun, hreasons⟩ := hrun
  obtain ⟨hfailed, -, hinterrupted⟩ := never_failed hrun
  exact ⟨w, hrun, hfailed, hinterrupted (by simp [hreasons])⟩

end Steady

end InstaGLAM.FirebaseDatabase
