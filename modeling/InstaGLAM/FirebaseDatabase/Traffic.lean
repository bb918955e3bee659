import InstaGLAM.FirebaseDatabase.Connecting

/-!
# FirebaseDatabase/Traffic — what is on its way between a client and a server that serves in order

With a server that takes the requests of a session in order, what is on its way is what the state of
the connection calls for; in particular a connected client has sent all of its outstanding puts, in
order and each once.
-/

namespace InstaGLAM.FirebaseDatabase

open Requests Trace PersistentConnection

variable {κ ν : Type*}

/-- The put that a callback is for. -/
def Callback.putIndex : Callback → Option ℕ
  | .put index => some index
  | .auth _ | .stats => none

/-- What is on its way in each state: nothing, the credentials after which the puts are sent, or the
outstanding puts. -/
def Flies (outstanding : List ℕ) (flight : List Callback) : ConnectionState → Prop
  | .disconnected | .gettingToken | .connecting => flight = []
  | .authenticating => ∃ first rest, flight = first ++ .auth true :: rest ∧
      (∀ k ∈ first, k = .stats) ∧ ∀ k ∈ rest, k = .auth false
  | .connected => flight.filterMap Callback.putIndex = outstanding ∧ .auth true ∉ flight

/-- What is on its way is what the state of the connection calls for. -/
structure Traffic (c : PersistentConnection κ ν) : Prop where
  numbered : c.session.Numbered
  flies : Flies c.outstanding c.session.inFlight c.connectionState

/-- What holds after every block. -/
structure Sound (c : PersistentConnection κ ν) : Prop extends Steady c, Traffic c

theorem sound_initial : Sound (initial : PersistentConnection κ ν) where
  toSteady := steady_initial
  numbered := ⟨List.nodup_nil, fun _ h => absurd h List.not_mem_nil, fun _ _ => rfl, fun _ _ => rfl,
    Nat.le_refl _⟩
  flies := rfl

section Sound

variable {c : PersistentConnection κ ν}

/-- Off a connected socket nothing is on its way. -/
theorem Sound.of_steady (h : Steady c) (hnumbered : c.session.Numbered)
    (hr : c.realtime ≠ some .connected) : Sound c := by
  refine ⟨h, hnumbered, ?_⟩
  have hflight := Channel.inFlight_of_idle (h.idle hr)
  rw [h.realtime] at hr
  cases hs : c.connectionState <;> rw [hs] at hr
  case authenticating | connected => exact absurd rfl hr
  all_goals exact hflight

/-! ### Losing and seeking a connection -/

theorem session_tryScheduleReconnect : c.tryScheduleReconnect.session = c.session ∧
    c.tryScheduleReconnect.realtime = c.realtime := by
  rw [tryScheduleReconnect, nsAssert]
  split_ifs <;> exact ⟨rfl, rfl⟩

/-- The session goes on by itself, without a socket. -/
theorem sound_tryScheduleReconnect (h : Steady c.tryScheduleReconnect)
    (hnumbered : c.session.Numbered) (hr : c.realtime = none) : Sound c.tryScheduleReconnect := by
  obtain ⟨hsession, hrealtime⟩ := session_tryScheduleReconnect (c := c)
  exact .of_steady h (hsession ▸ hnumbered) (by simp [hrealtime, hr])

theorem sound_onDisconnect (h : Control c) (hnumbered : c.session.Numbered)
    (hstate : c.connectionState ≠ .disconnected) : Sound c.onDisconnect :=
  sound_tryScheduleReconnect (steady_onDisconnect h hstate) hnumbered.close rfl

theorem sound_close (h : Sound c) : Sound c.close := by
  cases hr : c.realtime with
  | none => rwa [PersistentConnection.close, hr]
  | some socket =>
    rw [PersistentConnection.close, hr]
    exact sound_onDisconnect h.toControl h.numbered (h.state_ne_of_socket hr)

theorem sound_interrupt (h : Sound c) (reason : InterruptReason) :
    Sound (c.interrupt reason) := by
  have hsteady := steady_interrupt h.toSteady reason
  cases hr : c.realtime with
  | none =>
    rw [interrupt_of_none hr] at hsteady ⊢
    exact .of_steady hsteady h.numbered (by simp [hr])
  | some socket =>
    rw [interrupt_of_some hr] at hsteady ⊢
    exact sound_tryScheduleReconnect hsteady h.numbered.close rfl

theorem sound_resume (h : Sound c) (reason : InterruptReason) : Sound (c.resume reason) := by
  have hsteady := steady_resume h.toSteady reason
  by_cases hstate : c.connectionState = .disconnected
  · rw [PersistentConnection.resume, if_pos hstate] at hsteady ⊢
    exact sound_tryScheduleReconnect hsteady h.numbered (h.realtime_of_state hstate)
  · rw [PersistentConnection.resume, if_neg hstate, h.erase_eq hstate]
    exact h

theorem sound_enteringForeground (h : Sound c) : Sound c.enteringForeground := by
  have hsteady := steady_enteringForeground h.toSteady
  by_cases hstate : c.connectionState = .disconnected
  · rw [PersistentConnection.enteringForeground, if_pos hstate] at hsteady ⊢
    exact sound_tryScheduleReconnect hsteady h.numbered (h.realtime_of_state hstate)
  · rwa [PersistentConnection.enteringForeground, if_neg hstate]

theorem sound_fetchToken (h : Sound c) {forceRefresh : Bool}
    (hs : c.scheduledRetry = some forceRefresh) : Sound (c.fetchToken forceRefresh) := by
  obtain ⟨hstate, -⟩ := h.scheduled.1 (Option.isSome_of_eq_some hs)
  have hassert : (c.connectionState == .disconnected) = true := by rw [hstate, beq_self_eq_true]
  have hrealtime := h.realtime_of_state hstate
  have hsteady := steady_fetchToken h.toSteady hs
  rw [PersistentConnection.fetchToken, hassert] at hsteady ⊢
  exact .of_steady hsteady h.numbered (by simp [hrealtime])

theorem sound_fetchedToken (h : Sound c) {attempt : ℕ} {forceRefresh : Bool}
    (hf : c.fetches attempt = some forceRefresh) (result : Option (Option String)) :
    Sound (c.fetchedToken attempt result) := by
  have hsteady := steady_fetchedToken h.toSteady hf result
  by_cases hcurrent : attempt = c.currentFetchTokenAttempt
  · have hsome := hcurrent ▸ Option.isSome_of_eq_some hf
    have hrealtime := h.ne_connected_of_fetched hsome
    cases result with
    | none =>
      rw [fetchedToken_none hcurrent] at hsteady ⊢
      exact sound_tryScheduleReconnect hsteady h.numbered hrealtime
    | some token =>
      rw [fetchedToken_some hcurrent (h.fetched hsome)] at hsteady ⊢
      split at hsteady
      · next hs =>
        rw [if_pos hs]
        exact .of_steady hsteady h.numbered (by simp)
      · next hs =>
        rw [if_neg hs]
        exact .of_steady hsteady h.numbered (by simp [hrealtime])
  · rw [fetchedToken_of_ne hcurrent] at hsteady ⊢
    exact ⟨hsteady, h.numbered, h.flies⟩

/-! ### Sending -/

theorem sound_putInternal (h : Sound c) (path : κ) (data : ν) :
    Sound (c.putInternal path data) := by
  have hsteady := steady_putInternal h.toSteady path data
  have hflies := h.flies
  by_cases hstate : c.connectionState = .connected
  · have hrealtime : c.realtime = some .connected := by
      rw [h.realtime, hstate, ConnectionState.socket]
    rw [putInternal_of_connected path data hrealtime hstate] at hsteady ⊢
    rw [hstate] at hflies
    obtain ⟨hputs, hauth⟩ := hflies
    refine ⟨hsteady, h.numbered.send .., ?_⟩
    show Flies _ _ c.connectionState
    rw [hstate]
    refine ⟨?_, ?_⟩
    · rw [Channel.inFlight_send h.numbered, List.filterMap_append, hputs]
      exact (outstanding_append c (path, data)).symm
    · simp [Channel.inFlight_send h.numbered, hauth]
  · rw [putInternal_eq path data hstate] at hsteady ⊢
    refine ⟨hsteady, h.numbered, ?_⟩
    show Flies _ _ c.connectionState
    cases hs : c.connectionState <;> rw [hs] at hflies
    case connected => exact absurd hs hstate
    all_goals exact hflies

theorem sound_refreshAuthToken (h : Sound c) (token : Option String) :
    Sound (c.refreshAuthToken token) := by
  have hsteady := steady_refreshAuthToken h.toSteady token
  by_cases hconnected : c.connected = true
  · have hrealtime := h.realtime_of_connected hconnected
    have hsent : (token.map fun _ => Callback.auth false).toList.filterMap Callback.putIndex = [] ∧
        ∀ k ∈ (token.map fun _ => Callback.auth false).toList, k = .auth false := by
      cases token <;> simp [Callback.putIndex]
    have hflies := h.flies
    rw [refreshAuthToken_eq hrealtime hconnected] at hsteady ⊢
    refine ⟨hsteady, h.numbered.send .., ?_⟩
    show Flies _ _ c.connectionState
    rw [Channel.inFlight_send h.numbered]
    rcases h.state_of_connected hrealtime with hs | hs <;> rw [hs] at hflies ⊢
    · obtain ⟨first, rest, hflight, hfirst, hrest⟩ := hflies
      refine ⟨first, rest ++ (token.map fun _ => Callback.auth false).toList, ?_, hfirst, ?_⟩
      · rw [hflight, List.append_assoc, List.cons_append]
      · exact fun k hk => (List.mem_append.1 hk).elim (hrest k) (hsent.2 k)
    · refine ⟨?_, fun hmem => ?_⟩
      · rw [List.filterMap_append, hflies.1, hsent.1, List.append_nil]
        rfl
      · exact (List.mem_append.1 hmem).elim hflies.2 fun hmem => nomatch hsent.2 _ hmem
  · have heq : c.refreshAuthToken token = { c with authToken := token } := if_neg hconnected
    rw [heq] at hsteady ⊢
    exact ⟨hsteady, h.numbered, h.flies⟩

/-- The puts follow the rest of what is on its way. -/
theorem flies_sendAll {session : Channel (Action κ ν) Bool Callback} (hnumbered : session.Numbered)
    (hfirst : ∀ k ∈ session.inFlight, k.putIndex = none ∧ k ≠ .auth true) :
    Flies c.outstanding (session.sendAll c.putRequests).inFlight .connected := by
  rw [Channel.inFlight_sendAll hnumbered, putRequests_callbacks]
  refine ⟨?_, fun hmem => ?_⟩
  · rw [List.filterMap_append, List.filterMap_eq_nil_iff.2 fun k hk => (hfirst k hk).1,
      List.nil_append, List.filterMap_map]
    exact List.filterMap_some
  · refine (List.mem_append.1 hmem).elim (fun hmem => (hfirst _ hmem).2 rfl) fun hmem => ?_
    obtain ⟨index, -, he⟩ := List.mem_map.1 hmem
    exact nomatch he

theorem sound_onReady (h : Sound c) (hr : c.realtime = some .connecting) : Sound c.onReady := by
  have hsteady := steady_onReady h.toSteady hr
  have hstate := h.state_of_connecting hr
  have hidle := h.idle (by simp [hr])
  have hnumbered := numbered_begun h.numbered hidle
  obtain htoken | ⟨token, htoken⟩ := Option.eq_none_or_eq_some c.authToken
  · rw [onReady_none hstate htoken] at hsteady ⊢
    refine ⟨hsteady, hnumbered.sendAll _, ?_⟩
    refine flies_sendAll (c := c) hnumbered fun k hk => ?_
    rw [mem_inFlight_begun h.numbered hidle hk]
    exact ⟨rfl, nofun⟩
  · rw [onReady_some hstate htoken] at hsteady ⊢
    refine ⟨hsteady, hnumbered.send .., c.begun.inFlight, [], ?_,
      fun k hk => mem_inFlight_begun h.numbered hidle hk, fun k hk => absurd hk List.not_mem_nil⟩
    exact Channel.inFlight_send hnumbered ..

theorem sound_onAuthRevoked (h : Sound c) : Sound c.onAuthRevoked :=
  sound_close ⟨⟨h.withTraffic .., h.idle⟩, h.numbered, h.flies⟩

/-! ### Reading answers -/

/-- A callback is called, with what is then on its way. -/
theorem sound_call {k : Callback} (h : Control c) (hr : c.realtime = some .connected)
    (hnumbered : c.session.Numbered)
    (hflies : Flies c.outstanding (k :: c.session.inFlight) c.connectionState) (statusOk : Bool) :
    Sound (c.call statusOk k) := by
  have hsteady := steady_call h hr statusOk k
  have hrefused : ∀ restore, Sound (c.authAnswered restore false) := fun restore => by
    rw [authAnswered_refused hr]
    exact sound_onDisconnect ((h.authAnswered hr).withTraffic ..) hnumbered (by simp)
  cases hstate : c.connectionState <;> rw [hstate] at hflies
  case authenticating =>
    obtain ⟨first, rest, hflight, hfirst, hrest⟩ := hflies
    cases first with
    | nil =>
      obtain ⟨rfl, htail⟩ := List.cons.inj hflight
      cases statusOk with
      | false => exact hrefused true
      | true =>
        rw [call, authAnswered_restore hr] at hsteady ⊢
        refine ⟨hsteady, hnumbered.sendAll _, ?_⟩
        refine flies_sendAll (c := c) hnumbered fun k hk => ?_
        rw [hrest k (htail ▸ hk)]
        exact ⟨rfl, by simp⟩
    | cons k' first =>
      obtain ⟨rfl, htail⟩ := List.cons.inj hflight
      obtain rfl := hfirst _ List.mem_cons_self
      refine ⟨hsteady, hnumbered, hstate ▸ ⟨first, rest, htail, ?_, hrest⟩⟩
      exact fun k hk => hfirst k (List.mem_cons_of_mem _ hk)
  case connected =>
    obtain ⟨hputs, hauth⟩ := hflies
    have hauth' : .auth true ∉ c.session.inFlight := fun hmem =>
      hauth (List.mem_cons_of_mem _ hmem)
    cases k with
    | stats => exact ⟨hsteady, hnumbered, hstate ▸ ⟨hputs, hauth'⟩⟩
    | auth restore =>
      cases restore with
      | true => exact absurd List.mem_cons_self hauth
      | false =>
        cases statusOk with
        | false => exact hrefused false
        | true => exact ⟨hsteady, hnumbered, hputs, hauth'⟩
    | put index =>
      have htail : c.outstanding = index :: c.session.inFlight.filterMap Callback.putIndex :=
        hputs.symm
      obtain ⟨put, hput⟩ := isSome_of_mem_outstanding (htail ▸ List.mem_cons_self)
      rw [call, putAnswered_some hput] at hsteady ⊢
      refine ⟨hsteady, hnumbered, ?_⟩
      show Flies _ _ c.connectionState
      rw [hstate]
      exact ⟨(outstanding_tail htail).symm, hauth'⟩
  all_goals exact absurd hflies (List.cons_ne_nil _ _)

/-- **Reading an answer**: the callback that runs is the first of what is on its way, so it is that
of the state. -/
theorem sound_onDataMessage (h : Sound c) {rn : ℕ} {statusOk : Bool} {rest : List (ℕ × Bool)}
    (hclient : c.session.toClient = (rn, statusOk) :: rest) :
    Sound (c.onDataMessage rn statusOk rest) := by
  have hsteady := steady_onDataMessage h.toSteady rn statusOk rest
  have hnumbered := h.numbered.receive hclient
  have hflight := Channel.inFlight_receive h.numbered hclient
  have hflies := h.flies
  cases hk : c.session.callbacks rn with
  | none =>
    rw [hk, Option.toList_none, List.nil_append] at hflight
    rw [hflight] at hflies
    rw [onDataMessage_none hk] at hsteady ⊢
    exact ⟨hsteady, hnumbered, hflies⟩
  | some k =>
    rw [hk, Option.toList_some, List.singleton_append] at hflight
    have hread : Control { c with session := c.session.receive rn rest } := h.withTraffic ..
    rw [hflight] at hflies
    rw [onDataMessage_some hk]
    exact sound_call hread (h.realtime_of_callback hk) hnumbered hflies statusOk

/-! ### Every run -/

theorem sound_served [DataTree κ ν] {w : World κ ν} (h : Sound w.connection) {rn : ℕ}
    {action : Action κ ν} {before after : List (ℕ × Action κ ν)}
    (hserver : w.connection.session.toServer = before ++ (rn, action) :: after)
    (hnext : w.connection.session.IsNext before) (statusOk : Bool) :
    Sound (w.served rn (before ++ after) action statusOk).connection := by
  have hsteady := steady_served h.toSteady rn action (before ++ after) statusOk
  by_cases hr : w.connection.realtime = some .connected
  · by_cases hsession : w.connection.session.sessionStart ≤ rn
    · rw [World.served, if_pos ⟨hr, hsession⟩] at hsteady ⊢
      refine ⟨hsteady, h.numbered.serve hserver _, ?_⟩
      have hflight := Channel.inFlight_serve h.numbered hserver hnext statusOk
      exact hflight ▸ h.flies
    · rw [World.served, if_neg fun he => hsession he.2] at hsteady ⊢
      refine ⟨hsteady, h.numbered.absorb hserver, ?_⟩
      have hnone := h.numbered.old rn (not_le.1 hsession)
      have hflight : (w.connection.session.absorb (before ++ after)).inFlight =
          w.connection.session.inFlight := by
        rw [Channel.inFlight, Channel.unserved_absorb hserver hnone]
        rfl
      exact hflight ▸ h.flies
  · rw [World.served, if_neg fun he => hr he.1] at hsteady ⊢
    exact .of_steady hsteady (h.numbered.absorb hserver) hr

variable [DataTree κ ν] {records : κ → Option ν} {trace : List (Event κ ν)} {w : World κ ν}
  {e : Event κ ν} {w' : World κ ν}

/-- **What one step keeps.** -/
theorem sound_step (h : Sound w.connection) (horder : InOrder w e) (hs : Step w e w') :
    Sound w'.connection := by
  cases hs with
  | setValue => exact sound_putInternal h ..
  | interrupt => exact sound_interrupt h _
  | resume => exact sound_resume h _
  | enteringForeground => exact sound_enteringForeground h
  | refreshAuthToken => exact sound_refreshAuthToken h _
  | retry hretry => exact sound_fetchToken h hretry
  | fetchedToken hfetch => exact sound_fetchedToken h hfetch _
  | ready hr => exact sound_onReady h hr
  | closed => exact sound_close h
  | authRevoked => exact sound_onAuthRevoked h
  | answered hclient => exact sound_onDataMessage h hclient
  | served hserver => exact sound_served h hserver (horder _ _ _ _ _ rfl hserver) _
  | otherWrote => exact h

theorem sound_of_run (h : Run (StepWith InOrder) ⟨initial, records⟩ trace w) :
    Sound w.connection :=
  h.invariant (I := fun _ w => Sound w.connection) sound_initial
    fun _ _ _ _ hw hs => sound_step hw hs.1 hs.2

/-- A run goes on with something that is no business of the server. -/
theorem run_other (h : Run (StepWith Relied) ⟨initial, records⟩ trace w) (hs : Step w e w')
    (he : ∀ rn action statusOk, e ≠ .served rn action statusOk) :
    Run (StepWith Relied) ⟨initial, records⟩ (e :: trace) w' := h.cons ⟨relied_of_ne he, hs⟩

/-- A run goes on with the next request of its session. -/
theorem run_served (h : Run (StepWith Relied) ⟨initial, records⟩ trace w) {rn : ℕ}
    {action : Action κ ν} {statusOk : Bool} (before after : List (ℕ × Action κ ν))
    (hserver : w.connection.session.toServer = before ++ (rn, action) :: after)
    (hnext : w.connection.session.IsNext before)
    (hsession : w.connection.session.sessionStart ≤ rn) :
    Run (StepWith Relied) ⟨initial, records⟩ (.served rn action statusOk :: trace)
      (w.served rn (before ++ after) action statusOk) := by
  have hsound := sound_of_run (h.mono fun _ _ _ hs => ⟨hs.1.1, hs.2⟩)
  exact h.cons ⟨relied_served hsound.numbered hserver hnext hsession, .served hserver⟩

/-- Answered by a token provider that has no token. -/
theorem step_fetchedToken {attempt : ℕ} (h : c.fetches attempt = some false) :
    Step ⟨c, records⟩ (.fetchedToken attempt (some none))
      ⟨c.fetchedToken attempt (some none), records⟩ := .fetchedToken h

/-- Two puts have been made while the first connection opens. -/
def twoPuts (put put' : κ × ν) : PersistentConnection κ ν where
  connectionState := .connecting
  firstConnection := true
  realtime := some .connecting
  outstandingPuts := Function.update (Function.update (fun _ => none) 1 (some put)) 2 (some put')
  putCounter := 3
  interruptReasons := ∅
  scheduledRetry := none
  fetches := Function.update (Function.update (fun _ => none) 1 (some false)) 1 none
  currentFetchTokenAttempt := 1
  authToken := none
  forceAuthTokenRefresh := false
  session := ⟨1, 1, fun _ => none, [], []⟩
  completions := []
  failed := false

/-- They are sent, and the connection is lost when the server has served the first. -/
def lost (put put' : κ × ν) : List (Event κ ν) :=
  [.closed, .served 2 (.put put.1 put.2) true, .served 1 .stats true, .ready,
    .fetchedToken 1 (some none), .retry, .setValue put'.1 put'.2, .setValue put.1 put.2,
    .resume .waitingForOpen]

/-- Both are outstanding, and the second is on its way. -/
def lostAt (put put' : κ × ν) : PersistentConnection κ ν :=
  { twoPuts put put' with
    connectionState := .disconnected, firstConnection := false, realtime := none
    scheduledRetry := some false
    session := ⟨4, 1, fun _ => none, [(3, .put put'.1 put'.2)], []⟩ }

theorem run_lost (put put' : κ × ν) (records : κ → Option ν) :
    Run (StepWith Relied) ⟨initial, records⟩ (lost put put')
      ⟨lostAt put put', (Action.put put.1 put.2).write records⟩ := by
  have hmade : Run (StepWith Relied) ⟨initial, records⟩ ((lost put put').drop 4)
      ⟨twoPuts put put', records⟩ :=
    run_other (run_other (run_other (run_other (run_other .nil .resume nofun) .setValue nofun)
      .setValue nofun) (.retry rfl) nofun) (step_fetchedToken rfl) nofun
  have hready : (twoPuts put put').onReady = { twoPuts put put' with
      connectionState := .connected, firstConnection := false, realtime := some .connected
      session :=
        { requestNumber := 4, sessionStart := 1
          callbacks := Function.update (Function.update (Function.update (fun _ => none) 1
            (some .stats)) 2 (some (.put 1))) 3 (some (.put 2))
          toServer := [(1, .stats), (2, .put put.1 put.2), (3, .put put'.1 put'.2)]
          toClient := [] } } := onReady_none rfl rfl
  have hsent := run_other hmade (.ready rfl) nofun
  rw [hready] at hsent
  exact run_other (run_served (run_served hsent
    [] [(2, .put put.1 put.2), (3, .put put'.1 put'.2)] rfl (Channel.isNext_nil _)
    (Nat.le_of_ble_eq_true rfl)) [] [(3, .put put'.1 put'.2)] rfl (Channel.isNext_nil _)
    (Nat.le_of_ble_eq_true rfl)) .closed nofun

end Sound

end InstaGLAM.FirebaseDatabase
