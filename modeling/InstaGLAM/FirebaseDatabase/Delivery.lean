import InstaGLAM.FirebaseDatabase.Traffic
import InstaGLAM.Machinery.Redelivery
import Mathlib.Data.List.Range

/-!
# FirebaseDatabase/Delivery — the puts of a connection are a window of operations

    made in the run   =   answered  ++  served  ++  unserved

`served` are the puts whose answers are on their way, `unserved` those that are, or will be, on
their way to the server.  A connection that is lost puts the window back to what is not answered, a
put makes it longer, and nothing else that the client does by itself moves it.
-/

namespace InstaGLAM.FirebaseDatabase

open Requests Redelivery Trace PersistentConnection

variable {κ ν : Type*}

/-- The puts made in a run, in order. -/
def made : List (Event κ ν) → List (κ × ν)
  | [] => []
  | .setValue path data :: trace => made trace ++ [(path, data)]
  | _ :: trace => made trace

theorem made_append (later earlier : List (Event κ ν)) :
    made (later ++ earlier) = made earlier ++ made later := by
  induction later with
  | nil => exact (List.append_nil _).symm
  | cons e later ih =>
    cases e with
    | setValue path data =>
      show made (later ++ earlier) ++ _ = made earlier ++ (made later ++ _)
      rw [ih, List.append_assoc]
    | _ => exact ih

namespace PersistentConnection

variable (c : PersistentConnection κ ν)

/-- The puts served in this session whose answers are on their way. -/
def servedPuts : List ℕ := c.session.unread.filterMap fun x => x.2.putIndex

/-- The puts that the server has not served in this session, or that are for the next one. -/
def unservedPuts : List ℕ :=
  if c.connectionState = .connected then c.session.unserved.filterMap fun x => x.2.putIndex
  else c.outstanding

end PersistentConnection

variable {c : PersistentConnection κ ν} {trace : List (Event κ ν)} {W : Window (κ × ν)}
  {A : ℕ → ℕ → Bool → Prop} {B : ℕ → Bool → Prop}

theorem filterMap_inFlight (session : Channel (Action κ ν) Bool Callback) :
    session.inFlight.filterMap Callback.putIndex =
      (session.unread.filterMap fun x => x.2.putIndex) ++
        session.unserved.filterMap fun x => x.2.putIndex := by
  rw [Channel.inFlight, List.filterMap_append, List.filterMap_map, List.filterMap_map]
  rfl

/-- Unless it is connected, a connection has no put on its way. -/
theorem filterMap_inFlight_of_ne (h : Traffic c) (hstate : c.connectionState ≠ .connected) :
    c.session.inFlight.filterMap Callback.putIndex = [] := by
  have hflies := h.flies
  cases hs : c.connectionState <;> rw [hs] at hflies
  case connected => exact absurd hs hstate
  case authenticating =>
    obtain ⟨first, rest, hflight, hfirst, hrest⟩ := hflies
    rw [hflight, List.filterMap_eq_nil_iff]
    intro k hk
    rcases List.mem_append.1 hk with hk | hk
    · rw [hfirst k hk]
      rfl
    · rcases List.mem_cons.1 hk with rfl | hk
      · rfl
      · rw [hrest k hk]
        rfl
  all_goals
    have hnil : c.session.inFlight = [] := hflies
    rw [hnil]
    rfl

/-- A put on its way is that of a connected client. -/
theorem state_of_put (h : Traffic c) {index : ℕ} (hmem : .put index ∈ c.session.inFlight) :
    c.connectionState = .connected := by
  by_contra hne
  have hnone := List.filterMap_eq_nil_iff.1 (filterMap_inFlight_of_ne h hne) _ hmem
  exact absurd hnone (Option.some_ne_none index)

/-- The outstanding puts, in order, are those served and then those to be served. -/
theorem served_append_unserved (h : Traffic c) :
    c.servedPuts ++ c.unservedPuts = c.outstanding := by
  by_cases hstate : c.connectionState = .connected
  · have hflies := h.flies
    rw [hstate] at hflies
    rw [unservedPuts, if_pos hstate, servedPuts, ← filterMap_inFlight]
    exact hflies.1
  · have hnone := filterMap_inFlight_of_ne h hstate
    rw [filterMap_inFlight] at hnone
    rw [unservedPuts, if_neg hstate, servedPuts, (List.append_eq_nil_iff.1 hnone).1,
      List.nil_append]

/-! ## The connection as a window of puts -/

/-- A request that is waited for is the put that its callback is for, or neither is for a put. -/
def Matches (puts : ℕ → Option (κ × ν)) (x : Action κ ν × Callback) : Prop :=
  match x.2 with
  | .put index => ∃ put, puts index = some put ∧ x.1 = .put put.1 put.2
  | .auth _ | .stats => ∀ path data, x.1 ≠ .put path data

theorem Matches.exists_put {puts : ℕ → Option (κ × ν)} {path : κ} {data : ν} {k : Callback}
    (h : Matches puts (.put path data, k)) :
    ∃ index, k = .put index ∧ puts index = some (path, data) := by
  cases k with
  | put index =>
    obtain ⟨put, hput, ha⟩ := h
    obtain ⟨rfl, rfl⟩ := Action.put.inj ha
    exact ⟨index, rfl, hput⟩
  | auth restore | stats => exact absurd rfl (h path data)

def Action.IsPut (action : Action κ ν) : Prop := ∃ path data, action = .put path data

/-- The connection is at `W` with the puts made in `trace`.  What is known of the answer to the
request `rn` of a put, on its way to the client, is `A`, and `B` is what is known when it has been
read. -/
structure Delivers (A : ℕ → ℕ → Bool → Prop) (B : ℕ → Bool → Prop) (trace : List (Event κ ν))
    (W : Window (κ × ν)) (c : PersistentConnection κ ν) : Prop where
  counter : c.putCounter = (made trace).length + 1
  puts : ∀ index put, c.outstandingPuts index = some put → (made trace)[index - 1]? = some put
  order : (c.completions.map Prod.fst).reverse ++ c.outstanding = List.range' 1 (made trace).length
  all : W.all = made trace
  served : W.served = c.servedPuts.filterMap c.outstandingPuts
  outstanding : W.served ++ W.unserved = c.outstanding.filterMap c.outstandingPuts
  matched : ∀ x ∈ c.session.unserved, Matches c.outstandingPuts x
  tracked : c.realtime = some .connected → c.session.Tracked Action.IsPut
  sent : ∀ n path data, (n, .put path data) ∈ c.session.toServer → c.session.sessionStart ≤ n →
    ∃ index, c.outstandingPuts index = some (path, data)
  answers : c.session.Answers fun rn statusOk k => ∀ index, k = .put index → A rn index statusOk
  completions : ∀ x ∈ c.completions, B x.1 x.2

theorem delivers_initial : Delivers A B [] ⟨[], [], []⟩ (initial : PersistentConnection κ ν) where
  counter := rfl
  puts _ _ h := absurd h.symm (Option.some_ne_none _)
  order := rfl
  all := rfl
  served := rfl
  outstanding := rfl
  matched _ h := absurd h List.not_mem_nil
  tracked _ := fun _ _ h => absurd h List.not_mem_nil
  sent _ _ _ h := absurd h List.not_mem_nil
  answers _ _ _ h := absurd h List.not_mem_nil
  completions _ h := absurd h List.not_mem_nil

namespace Delivers

theorem unserved_eq (h : Delivers A B trace W c) (ht : Traffic c) :
    W.unserved = c.unservedPuts.filterMap c.outstandingPuts := by
  have hsplit := h.outstanding
  rw [← served_append_unserved ht, List.filterMap_append, h.served] at hsplit
  exact List.append_cancel_left hsplit

/-- What is no put takes no part. -/
theorem later (h : Delivers A B trace W c) {e : Event κ ν} (he : made (e :: trace) = made trace) :
    Delivers A B (e :: trace) W c :=
  ⟨he ▸ h.counter, he ▸ h.puts, he ▸ h.order, he ▸ h.all, h.served, h.outstanding, h.matched,
    h.tracked, h.sent, h.answers, h.completions⟩

/-- More may be known. -/
theorem mono {A' : ℕ → ℕ → Bool → Prop} {B' : ℕ → Bool → Prop} (h : Delivers A B trace W c)
    (hA : ∀ rn index statusOk, A rn index statusOk → A' rn index statusOk)
    (hB : ∀ index statusOk, B index statusOk → B' index statusOk) : Delivers A' B' trace W c where
  counter := h.counter
  puts := h.puts
  order := h.order
  all := h.all
  served := h.served
  outstanding := h.outstanding
  matched := h.matched
  tracked := h.tracked
  sent := h.sent
  answers := h.answers.mono fun rn statusOk _ ha index hk => hA rn index statusOk (ha index hk)
  completions x hx := hB _ _ (h.completions x hx)

/-- The session may change, too, as long as it is about the same puts. -/
theorem withSession {c' : PersistentConnection κ ν} (h : Delivers A B trace W c)
    (hputs : c'.outstandingPuts = c.outstandingPuts) (hcounter : c'.putCounter = c.putCounter)
    (hcompletions : c'.completions = c.completions) (hserved : c'.servedPuts = c.servedPuts)
    (hmatched : ∀ x ∈ c'.session.unserved, Matches c.outstandingPuts x)
    (htracked : c'.realtime = some .connected → c'.session.Tracked Action.IsPut)
    (hsent : ∀ n path data, (n, .put path data) ∈ c'.session.toServer →
      c'.session.sessionStart ≤ n → ∃ index, c.outstandingPuts index = some (path, data))
    (hanswers : c'.session.Answers fun rn statusOk k =>
      ∀ index, k = .put index → A rn index statusOk) :
    Delivers A B trace W c' := by
  have hout : c'.outstanding = c.outstanding := by
    rw [PersistentConnection.outstanding, PersistentConnection.outstanding, hputs, hcounter]
  constructor
  · rw [hcounter, h.counter]
  · rw [hputs]
    exact h.puts
  · rw [hcompletions, hout, h.order]
  · exact h.all
  · rw [h.served, hserved, hputs]
  · rw [h.outstanding, hout, hputs]
  · rwa [hputs]
  · exact htracked
  · rwa [hputs]
  · exact hanswers
  · rw [hcompletions]
    exact h.completions

/-- The rest of a connection may change. -/
theorem moved {c' : PersistentConnection κ ν} (h : Delivers A B trace W c)
    (hputs : c'.outstandingPuts = c.outstandingPuts) (hcounter : c'.putCounter = c.putCounter)
    (hcompletions : c'.completions = c.completions) (hsession : c'.session = c.session)
    (hrealtime : c'.realtime = some .connected → c.realtime = some .connected) :
    Delivers A B trace W c' := by
  refine h.withSession hputs hcounter hcompletions (by rw [servedPuts, servedPuts, hsession]) ?_ ?_
    ?_ ?_ <;> rw [hsession]
  · exact h.matched
  · exact fun hr => h.tracked (hrealtime hr)
  · exact h.sent
  · exact h.answers

theorem tryScheduleReconnect (h : Delivers A B trace W c) :
    Delivers A B trace W c.tryScheduleReconnect := by
  rw [PersistentConnection.tryScheduleReconnect, nsAssert]
  split_ifs
  all_goals exact h.moved rfl rfl rfl rfl id

/-- **Losing the connection**: what is served but not answered is to be served again. -/
theorem onDisconnect (h : Delivers A B trace W c) : Delivers A B trace W.again c.onDisconnect := by
  refine tryScheduleReconnect ?_
  constructor
  · exact h.counter
  · exact h.puts
  · exact h.order
  · rw [Window.all_again, h.all]
  · rw [servedPuts, Channel.unread_close]
    rfl
  · exact h.outstanding
  · exact fun x hx => absurd (Channel.unserved_close ▸ hx) List.not_mem_nil
  · exact fun hr => absurd hr.symm (Option.some_ne_none _)
  · exact h.sent
  · exact fun _ _ _ hmem => absurd hmem List.not_mem_nil
  · exact h.completions

theorem close (h : Delivers A B trace W c) : ∃ W', W.Quiet W' ∧ Delivers A B trace W' c.close := by
  rw [PersistentConnection.close]
  split
  · exact ⟨W, .same, h⟩
  · exact ⟨W.again, .again, h.onDisconnect⟩

theorem interrupt (h : Delivers A B trace W c) (reason : InterruptReason) :
    ∃ W', W.Quiet W' ∧ Delivers A B trace W' (c.interrupt reason) := by
  cases hr : c.realtime with
  | none =>
    rw [interrupt_of_none hr]
    exact ⟨W, .same, h.moved rfl rfl rfl rfl id⟩
  | some socket =>
    rw [interrupt_of_some hr]
    exact ⟨W.again, .again, onDisconnect (h.moved rfl rfl rfl rfl id)⟩

theorem resume (h : Delivers A B trace W c) (reason : InterruptReason) :
    Delivers A B trace W (c.resume reason) := by
  have hreason : Delivers A B trace W { c with
      interruptReasons := c.interruptReasons.erase reason } := h.moved rfl rfl rfl rfl id
  rw [PersistentConnection.resume]
  split
  · exact hreason.tryScheduleReconnect
  · exact hreason

theorem enteringForeground (h : Delivers A B trace W c) :
    Delivers A B trace W c.enteringForeground := by
  rw [PersistentConnection.enteringForeground]
  split
  · exact h.tryScheduleReconnect
  · exact h

theorem fetchToken (h : Delivers A B trace W c) (forceRefresh : Bool) :
    Delivers A B trace W (c.fetchToken forceRefresh) := by
  rw [PersistentConnection.fetchToken, nsAssert]
  split
  all_goals exact h.moved rfl rfl rfl rfl id

theorem fetchedToken (h : Delivers A B trace W c) (attempt : ℕ) (result : Option (Option String)) :
    Delivers A B trace W (c.fetchedToken attempt result) := by
  have hfetch : Delivers A B trace W { c with
      fetches := Function.update c.fetches attempt none } := h.moved rfl rfl rfl rfl id
  simp only [PersistentConnection.fetchedToken, openNetworkConnection, nsAssert]
  split
  · split
    · exact Delivers.tryScheduleReconnect (h.moved rfl rfl rfl rfl id)
    · split
      · split
        all_goals exact h.moved rfl rfl rfl rfl (by simp)
      · split
        all_goals exact h.moved rfl rfl rfl rfl id
  · exact hfetch

theorem onAuthRevoked (h : Delivers A B trace W c) :
    ∃ W', W.Quiet W' ∧ Delivers A B trace W' c.onAuthRevoked := by
  have hrevoked : Delivers A B trace W { c with
      authToken := none, forceAuthTokenRefresh := true } := h.moved rfl rfl rfl rfl id
  exact hrevoked.close

/-! ### Sending -/

theorem lt_putCounter (h : Delivers A B trace W c) {index : ℕ} {put : κ × ν}
    (hput : c.outstandingPuts index = some put) : index < c.putCounter := by
  have hlt := (List.getElem?_eq_some_iff.1 (h.puts index put hput)).1
  rw [h.counter]
  omega

theorem mem_outstanding (h : Delivers A B trace W c) {index : ℕ} {put : κ × ν}
    (hput : c.outstandingPuts index = some put) : index ∈ c.outstanding :=
  List.mem_filter.2 ⟨List.mem_range.2 (h.lt_putCounter hput), Option.isSome_of_eq_some hput⟩

/-- What is outstanding stays so when a put is made. -/
theorem update_putCounter (h : Delivers A B trace W c) {index : ℕ} {put new : κ × ν}
    (hput : c.outstandingPuts index = some put) :
    Function.update c.outstandingPuts c.putCounter (some new) index = some put :=
  (Function.update_of_ne (h.lt_putCounter hput).ne ..).trans hput

theorem matches_update (h : Delivers A B trace W c) (new : κ × ν) {x : Action κ ν × Callback}
    (hx : Matches c.outstandingPuts x) :
    Matches (Function.update c.outstandingPuts c.putCounter (some new)) x := by
  obtain ⟨action, k⟩ := x
  cases k with
  | put index => exact hx.imp fun put hput => ⟨h.update_putCounter hput.1, hput.2⟩
  | auth restore | stats => exact hx

/-- A put is made, and sent if there is a connection. -/
theorem putMade {c' : PersistentConnection κ ν} (h : Delivers A B trace W c) (ht : Traffic c)
    {path : κ} {data : ν} (hputs : c'.outstandingPuts =
      Function.update c.outstandingPuts c.putCounter (some (path, data)))
    (hcounter : c'.putCounter = c.putCounter + 1) (hcompletions : c'.completions = c.completions)
    (hunread : c'.session.unread = c.session.unread)
    (hmatched : ∀ x ∈ c'.session.unserved, Matches c'.outstandingPuts x)
    (htracked : c'.realtime = some .connected → c'.session.Tracked Action.IsPut)
    (hsent : ∀ n path data, (n, .put path data) ∈ c'.session.toServer →
      c'.session.sessionStart ≤ n → ∃ index, c'.outstandingPuts index = some (path, data))
    (hanswers : c'.session.Answers fun rn statusOk k =>
      ∀ index, k = .put index → A rn index statusOk) :
    Delivers A B (.setValue path data :: trace) (W.make (path, data)) c' := by
  have hout : c'.outstanding = c.outstanding ++ [c.putCounter] := by
    rw [← outstanding_append c (path, data), PersistentConnection.outstanding, hputs, hcounter]
    rfl
  have hsame : ∀ indices : List ℕ, (∀ index ∈ indices, index ∈ c.outstanding) →
      indices.filterMap c'.outstandingPuts = indices.filterMap c.outstandingPuts := by
    refine fun indices hall => List.filterMap_congr fun index hindex => ?_
    obtain ⟨put, hput⟩ := isSome_of_mem_outstanding (hall index hindex)
    rw [hputs, h.update_putCounter hput, hput]
  have hserved : c'.servedPuts = c.servedPuts := by rw [servedPuts, servedPuts, hunread]
  constructor
  · rw [hcounter, h.counter, made, List.length_append]
    rfl
  · intro index put hput
    rw [hputs] at hput
    by_cases he : index = c.putCounter
    · rw [he, Function.update_self] at hput
      rw [he, h.counter, made, ← Option.some.inj hput]
      simp
    · rw [Function.update_of_ne he] at hput
      have hold := h.puts index put hput
      exact (List.getElem?_append_left (List.getElem?_eq_some_iff.1 hold).1).trans hold
  · rw [hcompletions, hout, ← List.append_assoc, h.order, h.counter, made, List.length_append,
      List.length_singleton, List.range'_concat]
    simp [Nat.add_comm]
  · rw [Window.all_make, h.all, made]
  · rw [hserved, hsame _ fun index hindex => ?_]
    · exact h.served
    · exact served_append_unserved ht ▸ List.mem_append_left _ hindex
  · rw [hout, List.filterMap_append, hsame _ fun _ => id, ← h.outstanding, hputs]
    simp [Window.make]
  · exact hmatched
  · exact htracked
  · exact hsent
  · exact hanswers
  · exact fun x hx => h.completions x (hcompletions ▸ hx)

/-- Another put of the app. -/
theorem putInternal (h : Delivers A B trace W c) (hs : Sound c) (path : κ) (data : ν) :
    Delivers A B (.setValue path data :: trace) (W.make (path, data))
      (c.putInternal path data) := by
  have hself : Function.update c.outstandingPuts c.putCounter (some (path, data)) c.putCounter =
      some (path, data) := Function.update_self ..
  by_cases hstate : c.connectionState = .connected
  · have hr : c.realtime = some .connected := by rw [hs.realtime, hstate, ConnectionState.socket]
    rw [putInternal_of_connected path data hr hstate]
    refine h.putMade hs.toTraffic rfl rfl rfl (Channel.unread_send hs.numbered ..) ?_
      (fun _ => (h.tracked hr).send fun _ => rfl) ?_ (h.answers.send hs.numbered _ _)
    · intro x hx
      rw [Channel.unserved_send hs.numbered] at hx
      rcases List.mem_append.1 hx with hx | hx
      · exact h.matches_update _ (h.matched x hx)
      · obtain rfl := List.mem_singleton.1 hx
        exact ⟨(path, data), hself, rfl⟩
    · intro n path' data' hmem hsession
      rcases List.mem_append.1 hmem with hmem | hmem
      · exact (h.sent n path' data' hmem hsession).imp fun index hput => h.update_putCounter hput
      · obtain ⟨-, he⟩ := Prod.mk.inj (List.mem_singleton.1 hmem)
        obtain ⟨rfl, rfl⟩ := Action.put.inj he
        exact ⟨c.putCounter, hself⟩
  · rw [putInternal_eq path data hstate]
    refine h.putMade hs.toTraffic rfl rfl rfl rfl
      (fun x hx => h.matches_update _ (h.matched x hx)) h.tracked ?_ h.answers
    exact fun n path' data' hmem hsession =>
      (h.sent n path' data' hmem hsession).imp fun index hput => h.update_putCounter hput

/-- Requests for something else. -/
theorem sendOther (h : Delivers A B trace W c) (hnumbered : c.session.Numbered)
    (action : Action κ ν) (onMessage : Option Callback)
    (haction : ∀ path data, action ≠ .put path data)
    (hcallback : ∀ k, onMessage = some k → k.putIndex = none) :
    Delivers A B trace W { c with session := c.session.send action onMessage } := by
  have hunread := Channel.unread_send hnumbered action onMessage
  refine h.withSession rfl rfl rfl ?_ ?_ (fun hr => (h.tracked hr).send ?_) ?_
    (h.answers.send hnumbered _ _)
  · rw [servedPuts, servedPuts, hunread]
  · intro x hx
    rw [Channel.unserved_send hnumbered] at hx
    rcases List.mem_append.1 hx with hx | hx
    · exact h.matched x hx
    · obtain ⟨k, hk, rfl⟩ : ∃ k, onMessage = some k ∧ x = (action, k) := by
        simpa [eq_comm] using hx
      have hnone := hcallback k hk
      cases k with
      | put index => exact absurd hnone (Option.some_ne_none index)
      | auth restore | stats => exact haction
  · exact fun ⟨path, data, he⟩ => absurd he (haction path data)
  · intro n path data hmem hsession
    rcases List.mem_append.1 hmem with hmem | hmem
    · exact h.sent n path data hmem hsession
    · obtain ⟨-, he⟩ := Prod.mk.inj (List.mem_singleton.1 hmem)
      exact absurd he.symm (haction path data)

theorem refreshAuthToken (h : Delivers A B trace W c) (hs : Sound c) (token : Option String) :
    Delivers A B trace W (c.refreshAuthToken token) := by
  by_cases hconnected : c.connected = true
  · have hr := hs.realtime_of_connected hconnected
    have hsent : Delivers A B trace W { c with
        session :=
          c.session.send (token.elim .unauth .auth) (token.map fun _ => .auth false) } := by
      refine h.sendOther hs.numbered _ _ ?_ ?_
      · cases token <;> simp
      · cases token
        · simp
        · exact fun k hk => Option.some.inj hk ▸ rfl
    rw [refreshAuthToken_eq hr hconnected]
    exact hsent.moved rfl rfl rfl rfl id
  · have heq : c.refreshAuthToken token = { c with authToken := token } := if_neg hconnected
    rw [heq]
    exact h.moved rfl rfl rfl rfl id

theorem exists_of_mem_putRequests {x : Action κ ν × Option Callback} (hx : x ∈ c.putRequests) :
    ∃ index put, c.outstandingPuts index = some put ∧ x = putRequest index put := by
  obtain ⟨index, -, he⟩ := List.mem_filterMap.1 hx
  obtain ⟨put, hput, rfl⟩ := Option.map_eq_some_iff.1 he
  exact ⟨index, put, hput, rfl⟩

/-- All outstanding puts are sent, in a session that has begun with other requests. -/
theorem putsSent {c' : PersistentConnection κ ν} (session : Channel (Action κ ν) Bool Callback)
    (h : Delivers A B trace W { c with session }) (hnumbered : session.Numbered)
    (htracked : session.Tracked Action.IsPut) (hputs : c'.outstandingPuts = c.outstandingPuts)
    (hcounter : c'.putCounter = c.putCounter) (hcompletions : c'.completions = c.completions)
    (hsession : c'.session = session.sendAll c.putRequests) : Delivers A B trace W c' := by
  refine h.withSession hputs hcounter hcompletions ?_ ?_ (fun _ => ?_) ?_ ?_
  · rw [servedPuts, hsession, Channel.unread_sendAll hnumbered]
    rfl
  · intro x hx
    rw [hsession, Channel.unserved_sendAll hnumbered] at hx
    rcases List.mem_append.1 hx with hx | hx
    · exact h.matched x hx
    · obtain ⟨r, hr, he⟩ := List.mem_filterMap.1 hx
      obtain ⟨index, put, hput, rfl⟩ := exists_of_mem_putRequests hr
      obtain rfl := Option.some.inj he
      exact ⟨put, hput, rfl⟩
  · rw [hsession]
    refine htracked.sendAll fun r hr _ => ?_
    obtain ⟨index, put, -, rfl⟩ := exists_of_mem_putRequests hr
    rfl
  · intro n path data hmem hstart
    obtain ⟨sent, hsent, hmap⟩ := Channel.toServer_sendAll (c := session) c.putRequests
    rw [hsession, hsent] at hmem
    rcases List.mem_append.1 hmem with hmem | hmem
    · refine h.sent n path data hmem ?_
      rwa [hsession, Channel.sessionStart_sendAll] at hstart
    · have hrequest : .put path data ∈ c.putRequests.map Prod.fst :=
        hmap ▸ List.mem_map_of_mem hmem
      obtain ⟨r, hr, he⟩ := List.mem_map.1 hrequest
      obtain ⟨index, put, hput, rfl⟩ := exists_of_mem_putRequests hr
      obtain ⟨rfl, rfl⟩ := Action.put.inj he
      exact ⟨index, hput⟩
  · rw [hsession]
    exact h.answers.sendAll hnumbered _

/-- A session begins without puts. -/
theorem begun (h : Delivers A B trace W c) (hs : Sound c) (hr : c.realtime = some .connecting) :
    Delivers A B trace W { c with realtime := some .connected, session := c.begun } := by
  have hidle := hs.idle (by simp [hr])
  have hserved : c.servedPuts = [] := by
    rw [servedPuts, Channel.unread, waiting_eq_nil fun x _ => hidle x.1, List.filterMap_nil]
  have hunserved : c.session.renew.unserved = [] := waiting_eq_nil fun x _ => hidle x.1
  have hrenewed : Delivers A B trace W { c with
      realtime := some .connected, session := c.session.renew } := by
    refine h.withSession rfl rfl rfl hserved.symm ?_ (fun _ => .renew hs.numbered) ?_ ?_
    · exact fun x hx => absurd (hunserved ▸ hx) List.not_mem_nil
    · intro n path data hmem hsession
      -- nothing has been sent yet
      have hlt := hs.numbered.lt n (List.mem_append_right _ (List.mem_map.2 ⟨_, hmem, rfl⟩))
      exact absurd hlt (Nat.not_lt.2 hsession)
    · exact fun _ _ _ hmem => absurd hmem List.not_mem_nil
  rw [PersistentConnection.begun]
  split
  · exact hrenewed.sendOther (hs.numbered.renew hidle) _ _ (by simp)
      fun k hk => Option.some.inj hk ▸ rfl
  · exact hrenewed

theorem onReady (h : Delivers A B trace W c) (hs : Sound c) (hr : c.realtime = some .connecting) :
    Delivers A B trace W c.onReady := by
  have hstate := hs.state_of_connecting hr
  have hbegun := h.begun hs hr
  have hnumbered := numbered_begun hs.numbered (hs.idle (by simp [hr]))
  obtain htoken | ⟨token, htoken⟩ := Option.eq_none_or_eq_some c.authToken
  · rw [onReady_none hstate htoken]
    exact putsSent (c := { c with realtime := some .connected }) _ hbegun hnumbered
      (hbegun.tracked rfl) rfl rfl rfl rfl
  · have hsent := hbegun.sendOther hnumbered (.auth token) _ (by simp)
      fun k (hk : some (Callback.auth true) = some k) => Option.some.inj hk ▸ rfl
    rw [onReady_some hstate htoken]
    exact hsent.moved rfl rfl rfl rfl id

end Delivers

end InstaGLAM.FirebaseDatabase
