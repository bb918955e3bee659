import InstaGLAM.FirebaseDatabase.Puts
import Mathlib.Data.Finset.Card
import Mathlib.Data.Prod.Lex

/-!
# FirebaseDatabase/Recovery — once things go well, every put gets its answer

    (refused credentials, steps to go, tokens asked for)   ▾ with every helpful event

An event is helpful if it is what the connection is waiting for and, where it brings credentials or
their answer, goes well.  From any state without a reason to interrupt, helpful events come to an
end in whatever order they come, and they end only with a client that is connected and has no put
outstanding: a retry is never forgotten, and no answer is waited for that nobody will give.  The
server takes the requests of a session in order, and it may or may not have done with those of the
sessions before.
-/

namespace InstaGLAM.FirebaseDatabase

open Requests Trace PersistentConnection

variable {κ ν : Type*}

/-- What the connection waits for, with a token, and with nothing refused but puts. -/
def Helpful : Event κ ν → Prop
  | .retry | .ready | .answered _ _ => True
  | .fetchedToken _ result => result.isSome
  | .served _ action statusOk => statusOk ∨ action.IsPut
  | _ => False

/-! ## The measure -/

/-- The state and what belongs to it: at most so many steps are to go. -/
def ConnectionState.ahead (outstanding : ℕ) : ConnectionState → ℕ
  | .disconnected => 2 * outstanding + 7
  | .gettingToken => 2 * outstanding + 6
  | .connecting => 2 * outstanding + 5
  | .authenticating => 2 * outstanding
  | .connected => 0

namespace PersistentConnection

variable (c : PersistentConnection κ ν)

/-- Each request is to be served and its answer to be read. -/
def stepsToGo : ℕ :=
  c.connectionState.ahead c.outstanding.length +
    (2 * c.session.toServer.length + c.session.toClient.length)

/-- The answers on their way that refuse credentials. -/
def refusals : ℕ :=
  (c.session.unread.filter fun x => !x.1 && x.2.putIndex.isNone).length

/-- The calls of the token provider that are not answered. -/
def pendingFetches : Finset ℕ :=
  (Finset.range (c.currentFetchTokenAttempt + 1)).filter fun attempt => (c.fetches attempt).isSome

/-- Refused credentials make the connection start again, so they count first. -/
def measure : ℕ ×ₗ ℕ ×ₗ ℕ := toLex (c.refusals, toLex (c.stepsToGo, c.pendingFetches.card))

variable {c}

theorem measure_lt_of_refusals {c' : PersistentConnection κ ν} (h : c'.refusals < c.refusals) :
    c'.measure < c.measure :=
  Prod.Lex.toLex_lt_toLex.2 (Or.inl h)

theorem measure_lt_of_steps {c' : PersistentConnection κ ν} (hrefusals : c'.refusals ≤ c.refusals)
    (hsteps : c'.stepsToGo < c.stepsToGo) : c'.measure < c.measure := by
  rcases hrefusals.lt_or_eq with hlt | heq
  · exact measure_lt_of_refusals hlt
  · exact Prod.Lex.toLex_lt_toLex.2 (Or.inr ⟨heq, Prod.Lex.toLex_lt_toLex.2 (Or.inl hsteps)⟩)

/-- An answer of the token provider is one fewer to come. -/
theorem measure_lt_of_fetched {attempt : ℕ} (hf : (c.fetches attempt).isSome)
    (hle : attempt ≤ c.currentFetchTokenAttempt) :
    measure { c with fetches := Function.update c.fetches attempt none } < c.measure := by
  have hmem : attempt ∈ c.pendingFetches :=
    Finset.mem_filter.2 ⟨Finset.mem_range.2 (Nat.lt_succ_of_le hle), hf⟩
  have hsub : pendingFetches { c with fetches := Function.update c.fetches attempt none } ⊂
      c.pendingFetches := by
    refine (Finset.ssubset_iff_of_subset fun a ha => ?_).2 ⟨attempt, hmem, fun hmem' => ?_⟩
    · have hsome : (Function.update c.fetches attempt none a).isSome := (Finset.mem_filter.1 ha).2
      refine Finset.mem_filter.2 ⟨(Finset.mem_filter.1 ha).1, ?_⟩
      by_cases he : a = attempt
      · exact he ▸ hf
      · rwa [Function.update_of_ne he] at hsome
    · have hsome : (Function.update c.fetches attempt none attempt).isSome :=
        (Finset.mem_filter.1 hmem').2
      rw [Function.update_self] at hsome
      exact nomatch hsome
  exact Prod.Lex.toLex_lt_toLex.2 (Or.inr ⟨rfl,
    Prod.Lex.toLex_lt_toLex.2 (Or.inr ⟨rfl, Finset.card_lt_card hsub⟩)⟩)

/-- The connection comes nearer to being connected. -/
theorem measure_lt_of_ahead {c' : PersistentConnection κ ν} (hout : c'.outstanding = c.outstanding)
    (hsession : c'.session = c.session)
    (hahead : c'.connectionState.ahead c.outstanding.length <
      c.connectionState.ahead c.outstanding.length) : c'.measure < c.measure := by
  refine measure_lt_of_steps ?_ ?_
  · rw [refusals, refusals, hsession]
  · rw [stepsToGo, stepsToGo, hout, hsession]
    exact Nat.add_lt_add_right hahead _

/-! ### Connecting -/

theorem measure_fetchToken (h : Control c) {forceRefresh : Bool}
    (hs : c.scheduledRetry = some forceRefresh) :
    (c.fetchToken forceRefresh).measure < c.measure := by
  have hstate := (h.scheduled.1 (Option.isSome_of_eq_some hs)).1
  have hassert : (c.connectionState == .disconnected) = true := by rw [hstate, beq_self_eq_true]
  rw [fetchToken, hassert, nsAssert_true]
  refine measure_lt_of_ahead rfl rfl ?_
  rw [hstate]
  exact Nat.lt_succ_self _

theorem measure_fetchedToken (h : Control c) {attempt : ℕ} {forceRefresh : Bool}
    (hf : c.fetches attempt = some forceRefresh) (token : Option String) :
    (c.fetchedToken attempt (some token)).measure < c.measure := by
  have hsome := Option.isSome_of_eq_some hf
  have hfetched := measure_lt_of_fetched hsome (h.attempts attempt hsome)
  by_cases hcurrent : attempt = c.currentFetchTokenAttempt
  · have hstate := h.fetched (hcurrent ▸ hsome)
    rw [fetchedToken_some hcurrent hstate]
    split
    · next hs =>
      refine measure_lt_of_ahead rfl rfl ?_
      rw [hs]
      exact Nat.lt_succ_self _
    · exact hfetched
  · rwa [fetchedToken_of_ne hcurrent]

theorem unread_begun (h : c.session.Numbered) (hidle : ∀ n, c.session.callbacks n = none) :
    c.begun.unread = [] := by
  rw [begun]
  split
  · exact Channel.unread_send (h.renew hidle) ..
  · rfl

theorem toClient_begun : c.begun.toClient = [] := by
  rw [begun]
  split <;> rfl

theorem length_toServer_begun : c.begun.toServer.length ≤ c.session.toServer.length + 1 := by
  rw [begun]
  split
  · exact (List.length_append ..).le
  · exact Nat.le_succ _

theorem length_putRequests : c.putRequests.length ≤ c.outstanding.length :=
  List.length_filterMap_le ..

theorem measure_onReady (h : Sound c) (hr : c.realtime = some .connecting) :
    c.onReady.measure < c.measure := by
  have hstate := h.state_of_connecting hr
  have hbegun := length_toServer_begun (c := c)
  have hputs := length_putRequests (c := c)
  have hidle := h.idle (by simp [hr])
  have hnumbered := numbered_begun h.numbered hidle
  have hold : 2 * c.outstanding.length + 5 + 2 * c.session.toServer.length ≤ c.stepsToGo := by
    rw [stepsToGo, hstate, ConnectionState.ahead]
    omega
  obtain htoken | ⟨token, htoken⟩ := Option.eq_none_or_eq_some c.authToken
  · rw [onReady_none hstate htoken]
    refine measure_lt_of_steps ?_ ?_
    · rw [refusals, Channel.unread_sendAll hnumbered, unread_begun h.numbered hidle]
      exact Nat.zero_le _
    · rw [stepsToGo, Channel.length_toServer_sendAll, Channel.toClient_sendAll, toClient_begun]
      simp only [ConnectionState.ahead, List.length_nil]
      omega
  · rw [onReady_some hstate htoken]
    refine measure_lt_of_steps ?_ ?_
    · rw [refusals, Channel.unread_send hnumbered, unread_begun h.numbered hidle]
      exact Nat.zero_le _
    · have hnew : stepsToGo { c with
          realtime := some .connected, connectionState := .authenticating
          session := c.begun.send (.auth token) (some (.auth true)), firstConnection := false } =
          2 * c.outstanding.length + (2 * (c.begun.toServer.length + 1) + 0) := by
        rw [stepsToGo, Channel.send, List.length_append, toClient_begun]
        rfl
      omega

/-! ### Reasons to interrupt -/

theorem interruptReasons_fetchToken (forceRefresh : Bool) :
    (c.fetchToken forceRefresh).interruptReasons = c.interruptReasons := by
  rw [fetchToken, nsAssert]
  split <;> rfl

theorem interruptReasons_tryScheduleReconnect :
    c.tryScheduleReconnect.interruptReasons = c.interruptReasons := by
  rw [tryScheduleReconnect, nsAssert]
  split_ifs <;> rfl

theorem interruptReasons_fetchedToken (attempt : ℕ) (result : Option (Option String)) :
    (c.fetchedToken attempt result).interruptReasons = c.interruptReasons := by
  simp only [fetchedToken, openNetworkConnection, nsAssert]
  split
  · split
    · exact interruptReasons_tryScheduleReconnect
    · split_ifs <;> rfl
  · rfl

theorem interruptReasons_onReady (h : Control c) (hr : c.realtime = some .connecting) :
    c.onReady.interruptReasons = c.interruptReasons := by
  have hstate := h.state_of_connecting hr
  obtain htoken | ⟨token, htoken⟩ := Option.eq_none_or_eq_some c.authToken
  · rw [onReady_none hstate htoken]
  · rw [onReady_some hstate htoken]

/-! ### Reading answers -/

/-- The credentials after which the puts are sent are those of a client that authenticates. -/
theorem state_of_auth (h : Traffic c) (hk : .auth true ∈ c.session.inFlight) :
    c.connectionState = .authenticating := by
  have hflies := h.flies
  cases hs : c.connectionState <;> rw [hs] at hflies
  case connected => exact absurd hk hflies.2
  all_goals
    have hnil : c.session.inFlight = [] := hflies
    rw [hnil] at hk
    exact absurd hk List.not_mem_nil

section Reading

variable {rn : ℕ} {statusOk : Bool} {rest : List (ℕ × Bool)}

theorem refusals_read (h : c.session.Numbered)
    (hclient : c.session.toClient = (rn, statusOk) :: rest) :
    refusals { c with session := c.session.receive rn rest } ≤ c.refusals := by
  rw [refusals, refusals, (Channel.queues_receive h hclient).2, List.filter_append,
    List.length_append]
  exact Nat.le_add_left _ _

theorem stepsToGo_eq (hclient : c.session.toClient = (rn, statusOk) :: rest) :
    c.stepsToGo = c.connectionState.ahead c.outstanding.length +
      (2 * c.session.toServer.length + rest.length) + 1 := by
  rw [stepsToGo, hclient, List.length_cons]
  omega

theorem measure_read (h : c.session.Numbered)
    (hclient : c.session.toClient = (rn, statusOk) :: rest) :
    measure { c with session := c.session.receive rn rest } < c.measure := by
  refine measure_lt_of_steps (refusals_read h hclient) ?_
  rw [stepsToGo_eq hclient]
  exact Nat.lt_succ_self _

theorem measure_onDataMessage (h : Sound c)
    (hclient : c.session.toClient = (rn, statusOk) :: rest) :
    (c.onDataMessage rn statusOk rest).measure < c.measure := by
  have hflight := Channel.inFlight_receive h.numbered hclient
  have hread := measure_read h.numbered hclient
  have hrefusals := refusals_read h.numbered hclient
  have hold := stepsToGo_eq hclient
  cases hk : c.session.callbacks rn with
  | none => rwa [onDataMessage_none hk]
  | some k =>
    have hmem : k ∈ c.session.inFlight := by simp [hflight, hk]
    have hr := h.realtime_of_callback hk
    rw [onDataMessage_some hk]
    cases k with
    | stats => exact hread
    | put index =>
      have hstate := state_of_put h.toTraffic hmem
      rw [call, putAnswered]
      split
      · exact hread
      · refine measure_lt_of_steps hrefusals ?_
        rw [hold, stepsToGo, hstate]
        exact Nat.lt_succ_self _
    | auth restore =>
      cases statusOk with
      | false =>
        -- the socket is closed, and with it go all refusals
        rw [call, authAnswered_refused (c := { c with session := c.session.receive rn rest }) hr,
          onDisconnect_eq]
        refine measure_lt_of_refusals ?_
        rw [refusals, refusals, Channel.unread_close,
          (Channel.queues_receive h.numbered hclient).2, hk]
        exact Nat.succ_pos _
      | true =>
        cases restore with
        | false =>
          refine measure_lt_of_steps hrefusals ?_
          have hnew : stepsToGo (call { c with session := c.session.receive rn rest } true
              (.auth false)) = 0 + (2 * c.session.toServer.length + rest.length) := rfl
          omega
        | true =>
          have hstate := state_of_auth h.toTraffic hmem
          have hputs := length_putRequests (c := c)
          have hahead : c.connectionState.ahead c.outstanding.length =
              2 * c.outstanding.length := by rw [hstate, ConnectionState.ahead]
          rw [call, authAnswered_restore (c := { c with session := c.session.receive rn rest }) hr]
          refine measure_lt_of_steps ?_ ?_
          · rw [refusals, Channel.unread_sendAll (h.numbered.receive hclient)]
            exact hrefusals
          · rw [stepsToGo, Channel.length_toServer_sendAll, Channel.toClient_sendAll]
            show 0 + (2 * (c.session.toServer.length + c.putRequests.length) + rest.length) < _
            omega

theorem interruptReasons_onDataMessage (h : Sound c)
    (hclient : c.session.toClient = (rn, statusOk) :: rest) :
    (c.onDataMessage rn statusOk rest).interruptReasons = c.interruptReasons := by
  cases hk : c.session.callbacks rn with
  | none => rw [onDataMessage_none hk]
  | some k =>
    rw [onDataMessage_some hk]
    cases k with
    | stats => rfl
    | put index =>
      rw [call, putAnswered]
      split <;> rfl
    | auth restore =>
      have hr := h.realtime_of_callback hk
      cases statusOk with
      | false =>
        rw [call, authAnswered_refused (c := { c with session := c.session.receive rn rest }) hr]
        exact interruptReasons_tryScheduleReconnect
      | true =>
        cases restore with
        | false => rfl
        | true =>
          rw [call, authAnswered_restore (c := { c with session := c.session.receive rn rest }) hr]

end Reading

end PersistentConnection

/-! ### Serving -/

section Run

variable [DataTree κ ν] {records : κ → Option ν} {trace : List (Event κ ν)} {w : World κ ν}

theorem measure_served (h : w.connection.session.Numbered)
    (hmatched : ∀ x ∈ w.connection.session.unserved, Matches w.connection.outstandingPuts x)
    {rn : ℕ} {action : Action κ ν} {before after : List (ℕ × Action κ ν)} {statusOk : Bool}
    (hserver : w.connection.session.toServer = before ++ (rn, action) :: after)
    (hnext : w.connection.session.IsNext before) (hhelpful : statusOk ∨ action.IsPut) :
    (w.served rn (before ++ after) action statusOk).connection.measure < w.connection.measure := by
  have hold : w.connection.stepsToGo =
      w.connection.connectionState.ahead w.connection.outstanding.length +
        (2 * ((before ++ after).length + 1) + w.connection.session.toClient.length) := by
    rw [stepsToGo, hserver, List.length_append, List.length_cons, List.length_append, Nat.add_assoc]
  rw [World.served]
  split
  · refine measure_lt_of_steps (Nat.le_of_eq ?_) ?_
    · rw [refusals, refusals]
      rcases Channel.queues_serve h hserver hnext statusOk with
        ⟨k, -, hunserved, hunread⟩ | ⟨-, -, hunread⟩
      · have hnone : (!statusOk && k.putIndex.isNone) = false := by
          rcases hhelpful with rfl | ⟨path, data, rfl⟩
          · rfl
          · have hk := hmatched (.put path data, k) (hunserved ▸ List.mem_cons_self)
            cases k with
            | put index => simp [Callback.putIndex]
            | auth restore | stats => exact absurd rfl (hk path data)
        simp [hunread, hnone]
      · rw [hunread]
    · have hnew : stepsToGo { w.connection with
          session := w.connection.session.serve rn (before ++ after) statusOk } =
          w.connection.connectionState.ahead w.connection.outstanding.length +
            (2 * (before ++ after).length + (w.connection.session.toClient.length + 1)) := by
        have hread : (w.connection.session.toClient ++ [(rn, statusOk)]).length =
            w.connection.session.toClient.length + 1 := List.length_append ..
        rw [← hread]
        rfl
      refine hnew.trans_lt ?_
      omega
  · refine measure_lt_of_steps le_rfl ?_
    have hnew : stepsToGo { w.connection with
          session := w.connection.session.absorb (before ++ after) } =
        w.connection.connectionState.ahead w.connection.outstanding.length +
          (2 * (before ++ after).length + w.connection.session.toClient.length) := rfl
    refine hnew.trans_lt ?_
    omega

/-! ## Helpful events -/

/-- A run that has come to a state without a reason to interrupt. -/
def Uninterrupted (records : κ → Option ν) (w : World κ ν) : Prop :=
  w.connection.interruptReasons = ∅ ∧
    ∃ trace, Run (StepWith InOrder) ⟨initial, records⟩ trace w

/-- No helpful event is a reason to interrupt. -/
theorem uninterrupted_step {e : Event κ ν} {w' : World κ ν} (hw : Uninterrupted records w)
    (he : Helpful e) (hs : StepWith InOrder w e w') :
    Uninterrupted records w' ∧ w'.connection.measure < w.connection.measure := by
  obtain ⟨hreasons, trace, hrun⟩ := hw
  obtain ⟨W, hwindow⟩ := atWindow_of_run hrun
  have hsound := hwindow.sound
  have hrun' := hrun.cons hs
  obtain ⟨horder, hs⟩ := hs
  refine ⟨⟨?_, _, hrun'⟩, ?_⟩
  · cases hs with
    | retry => rwa [interruptReasons_fetchToken]
    | fetchedToken => rwa [interruptReasons_fetchedToken]
    | ready hr => rwa [interruptReasons_onReady hsound.toControl hr]
    | answered hclient => rwa [interruptReasons_onDataMessage hsound hclient]
    | served => exact hreasons
    | setValue | interrupt | resume | enteringForeground | refreshAuthToken | closed
    | authRevoked | otherWrote => exact absurd he id
  · cases hs with
    | retry hretry => exact measure_fetchToken hsound.toControl hretry
    | @fetchedToken c _ attempt forceRefresh result hfetch =>
      obtain ⟨token, rfl⟩ := Option.isSome_iff_exists.1 he
      exact measure_fetchedToken hsound.toControl hfetch token
    | ready hr => exact measure_onReady hsound hr
    | answered hclient => exact measure_onDataMessage hsound hclient
    | served hserver =>
      have hnext := horder _ _ _ _ _ rfl hserver
      exact measure_served hsound.numbered hwindow.delivers.matched hserver hnext he
    | setValue | interrupt | resume | enteringForeground | refreshAuthToken | closed
    | authRevoked | otherWrote => exact absurd he id

/-- The connection is always waiting for something, unless it has nothing left to do. -/
theorem exists_helpful (hw : Uninterrupted records w)
    (hnone : ∀ e w', Helpful e → ¬StepWith Relied w e w') :
    w.connection.connectionState = .connected ∧
      ∀ index, w.connection.outstandingPuts index = none := by
  obtain ⟨hreasons, trace, hrun⟩ := hw
  obtain ⟨W, hwindow⟩ := atWindow_of_run hrun
  have hsound := hwindow.sound
  have hother : ∀ e w', Helpful e → (∀ rn action statusOk, e ≠ .served rn action statusOk) →
      ¬Step w e w' := fun e w' he hne hs => hnone e w' he ⟨relied_of_ne hne, hs⟩
  obtain ⟨c, records'⟩ := w
  have hflies := hsound.flies
  -- what is left for the server is of earlier sessions
  have hserver : c.session.IsNext c.session.toServer := by
    refine c.session.exists_next.resolve_right ?_
    rintro ⟨before, ⟨rn, action⟩, after, hqueue, hnext, hsession⟩
    exact hnone (.served rn action true) _ (Or.inl rfl)
      ⟨relied_served hsound.numbered hqueue hnext hsession, .served hqueue⟩
  have hclient : c.session.toClient = [] := by
    cases hqueue : c.session.toClient with
    | nil => rfl
    | cons x rest =>
      exact absurd (.answered hqueue) (hother (.answered x.1 x.2) _ trivial (by simp))
  have hflight : c.session.inFlight = [] := by
    rw [Channel.inFlight, Channel.unread, Channel.unserved,
      Channel.waiting_of_isNext hsound.numbered hserver, hclient]
    rfl
  cases hstate : c.connectionState <;> rw [hstate, hflight] at hflies
  case disconnected =>
    obtain ⟨forceRefresh, hretry⟩ :=
      Option.isSome_iff_exists.1 (hsound.scheduled.2 ⟨hstate, hreasons⟩)
    exact absurd (.retry hretry) (hother .retry _ trivial (by simp))
  case gettingToken =>
    obtain ⟨forceRefresh, hfetch⟩ := Option.isSome_iff_exists.1 (hsound.fetching hstate)
    exact absurd (.fetchedToken hfetch) (hother (.fetchedToken _ (some none)) _ rfl (by simp))
  case connecting =>
    have hr : c.realtime = some .connecting := by
      rw [hsound.realtime, hstate, ConnectionState.socket]
    exact absurd (.ready hr) (hother .ready _ trivial (by simp))
  case authenticating =>
    obtain ⟨first, rest, hfirst, -⟩ := hflies
    exact absurd hfirst.symm (by simp)
  case connected =>
    refine ⟨rfl, fun index => Option.eq_none_iff_forall_ne_some.2 fun put hput => ?_⟩
    have hmem := hwindow.delivers.mem_outstanding hput
    rw [← hflies.1] at hmem
    exact absurd hmem List.not_mem_nil

/-- **Helpful events connect the client and get every put answered**: they come to an end in
whatever order they come, and only with nothing outstanding. -/
theorem recovers (h : Run (StepWith InOrder) ⟨initial, records⟩ trace w)
    (huninterrupted : w.connection.interruptReasons = ∅) :
    Acc (fun w' w => ∃ e, Helpful e ∧ StepWith InOrder w e w') w ∧
      ∀ later w', Run (StepWith InOrder) w later w' → (∀ e ∈ later, Helpful e) →
        (∀ e w'', Helpful e → ¬StepWith Relied w' e w'') →
        w'.connection.connectionState = .connected ∧
          ∀ index, w'.connection.outstandingPuts index = none := by
  have hstart : Uninterrupted records w := ⟨huninterrupted, trace, h⟩
  refine ⟨acc_of_measure (I := Uninterrupted records) (fun w => w.connection.measure)
    (fun _ _ _ => uninterrupted_step) hstart, fun later w' hlater hall => ?_⟩
  have hend : Uninterrupted records w' := by
    induction hlater with
    | nil => exact hstart
    | cons _ hs ih =>
      have hearlier := ih fun e he => hall e (List.mem_cons_of_mem _ he)
      exact (uninterrupted_step hearlier (hall _ List.mem_cons_self) hs).1
  exact exists_helpful hend

/-- Both puts are sent again and answered; what had been sent of the second before is never
served. -/
def regained : List (Event Path UserRecord) :=
  [.answered 5 true, .answered 4 true, .served 5 (.put putAbove.1 putAbove.2) true,
    .served 4 (.put putNested.1 putNested.2) true, .ready, .fetchedToken 2 (some none), .retry]

theorem run_regained : ∃ w, Run (StepWith InOrder)
      ⟨lostAt putNested putAbove, (Action.put putNested.1 putNested.2).write fun _ => none⟩
      regained w ∧
    w.connection.scheduledRetry = none ∧ (∀ attempt, w.connection.fetches attempt = none) ∧
    w.connection.realtime = some .connected ∧ w.connection.session.toClient = [] ∧
    w.connection.session.toServer = [(3, .put putAbove.1 putAbove.2)] ∧
    w.connection.session.sessionStart = 4 := by
  refine ⟨_, .cons (.cons (.cons (.cons (.cons (.cons (.cons .nil
    ⟨inOrder_of_ne nofun, .retry rfl⟩) ⟨inOrder_of_ne nofun, step_fetchedToken rfl⟩)
    ⟨inOrder_of_ne nofun, .ready rfl⟩)
    (step_served [(3, .put putAbove.1 putAbove.2)] [(5, .put putAbove.1 putAbove.2)] (by decide)
      rfl ?_)) (step_served [(3, .put putAbove.1 putAbove.2)] [] (by decide) rfl ?_))
    ⟨inOrder_of_ne nofun, .answered rfl⟩) ⟨inOrder_of_ne nofun, .answered rfl⟩,
    rfl, fun attempt => ?_, rfl, rfl, rfl, rfl⟩
  case refine_3 => rcases attempt with _ | _ | _ | attempt <;> rfl
  all_goals exact Channel.isNext_cons.2 ⟨by decide, Channel.isNext_nil _⟩

theorem recovers_lost : ∃ w w',
    Run (StepWith InOrder) ⟨initial, fun _ => none⟩ (lost putNested putAbove) w ∧
    w.connection.connectionState = .disconnected ∧
    w.connection.outstandingPuts 1 = some putNested ∧
    w.connection.outstandingPuts 2 = some putAbove ∧
    Acc (fun w' w => ∃ e, Helpful e ∧ StepWith InOrder w e w') w ∧
    Run (StepWith InOrder) w regained w' ∧ w'.connection.connectionState = .connected ∧
    ∀ index, w'.connection.outstandingPuts index = none := by
  have hlost := (run_lost putNested putAbove fun _ => none).mono
    fun _ _ _ hs => And.intro hs.1.1 hs.2
  obtain ⟨w, hregained, hretry, hfetch, hrealtime, hclient, hserver, hstart⟩ := run_regained
  obtain ⟨hacc, hend⟩ := recovers hlost rfl
  refine ⟨_, w, hlost, rfl, rfl, rfl, hacc, hregained, hend regained w hregained ?_ ?_⟩
  · simp [regained, Helpful, Action.IsPut]
  · rintro e w'' he ⟨hrelied, hs⟩
    cases hs with
    | retry hretry' => exact nomatch hretry.symm.trans hretry'
    | fetchedToken hfetch' => exact nomatch (hfetch _).symm.trans hfetch'
    | ready hr => exact nomatch hrealtime.symm.trans hr
    | answered hclient' => exact nomatch hclient.symm.trans hclient'
    | @served _ rn action before after statusOk hserver' =>
      have hmem : (rn, action) ∈ [(3, .put putAbove.1 putAbove.2)] := by simp [← hserver, hserver']
      obtain rfl := (Prod.mk.inj (List.mem_singleton.1 hmem)).1
      have hended := hrelied.2 3 action statusOk rfl
      rw [hstart] at hended
      exact absurd hended (by decide)
    | setValue | interrupt | resume | enteringForeground | refreshAuthToken | closed
    | authRevoked | otherWrote => exact he

end Run

end InstaGLAM.FirebaseDatabase
