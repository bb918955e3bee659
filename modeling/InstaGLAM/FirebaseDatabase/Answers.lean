import InstaGLAM.FirebaseDatabase.Delivery

/-!
# FirebaseDatabase/Answers — serving a put and reading its answer move the window on

Answers come in the order of the window, so the next answer to a put is for the first one that is
served, and the next put that is served in this session is the first one that is not.
-/

namespace InstaGLAM.FirebaseDatabase

open Requests Redelivery Trace PersistentConnection

variable {κ ν : Type*} {c : PersistentConnection κ ν} {trace : List (Event κ ν)}
  {W : Window (κ × ν)} {A : ℕ → ℕ → Bool → Prop} {B : ℕ → Bool → Prop}

namespace Delivers

/-! ## Reading answers -/

/-- An answer has been read; what it does is still to come. -/
theorem receive {rn : ℕ} {statusOk : Bool} {rest : List (ℕ × Bool)} (h : Delivers A B trace W c)
    (hnumbered : c.session.Numbered) (hclient : c.session.toClient = (rn, statusOk) :: rest)
    (hk : ∀ k, c.session.callbacks rn = some k → k.putIndex = none) :
    Delivers A B trace W { c with session := c.session.receive rn rest } := by
  obtain ⟨hunserved, hunread⟩ := Channel.queues_receive hnumbered hclient
  refine h.withSession rfl rfl rfl ?_ ?_ (fun hr => (h.tracked hr).receive hnumbered hclient)
    h.sent (h.answers.receive hclient)
  · rw [servedPuts, servedPuts, hunread]
    cases hcallback : c.session.callbacks rn with
    | none => rfl
    | some k => exact (List.filterMap_cons_none (a := (statusOk, k)) (hk k hcallback)).symm
  · rw [hunserved]
    exact h.matched

theorem authAnswered (h : Delivers A B trace W c) (ht : c.session.Numbered)
    (hr : c.realtime = some .connected) (restore statusOk : Bool) :
    ∃ W', W.Quiet W' ∧ Delivers A B trace W' (c.authAnswered restore statusOk) := by
  cases statusOk with
  | false => exact close (h.moved rfl rfl rfl rfl id)
  | true =>
    cases restore with
    | false => exact ⟨W, .same, h.moved rfl rfl rfl rfl id⟩
    | true =>
      rw [authAnswered_restore hr]
      exact ⟨W, .same, h.putsSent c.session ht (h.tracked hr) rfl rfl rfl rfl⟩

/-- The put whose answer is read next is the first that is outstanding, and what is on its way to
the server is about later ones. -/
theorem outstanding_of_answer {rn index : ℕ} {statusOk : Bool} {rest : List (ℕ × Bool)}
    (hs : Sound c) (hclient : c.session.toClient = (rn, statusOk) :: rest)
    (hk : c.session.callbacks rn = some (.put index)) :
    ∃ later, c.servedPuts = index :: later ∧
      later = (c.session.receive rn rest).unread.filterMap (fun x => x.2.putIndex) ∧
      c.outstanding = index :: (later ++ c.unservedPuts) ∧
      ∀ action i, (action, Callback.put i) ∈ c.session.unserved → i ∈ later ++ c.unservedPuts := by
  obtain ⟨-, hunread⟩ := Channel.queues_receive hs.numbered hclient
  rw [hk] at hunread
  have hserved : c.servedPuts =
      index :: (c.session.receive rn rest).unread.filterMap fun x => x.2.putIndex := by
    rw [servedPuts, hunread]
    rfl
  refine ⟨_, hserved, rfl, ?_, fun action i hmem => List.mem_append_right _ ?_⟩
  · rw [← served_append_unserved hs.toTraffic, hserved, List.cons_append]
  · have hstate : c.connectionState = .connected := by
      have hflight : .put index ∈ c.session.inFlight := by
        rw [Channel.inFlight_receive hs.numbered hclient, hk]
        exact List.mem_cons_self
      exact state_of_put hs.toTraffic hflight
    rw [unservedPuts, if_pos hstate]
    exact List.mem_filterMap.2 ⟨(action, .put i), hmem, rfl⟩

/-- **The answer to a put** is the answer to the first that is not answered, whose completion block
is called. -/
theorem putAnswered {rn index : ℕ} {statusOk : Bool} {rest : List (ℕ × Bool)}
    (h : Delivers A B trace W c) (hs : Sound c)
    (hclient : c.session.toClient = (rn, statusOk) :: rest)
    (hk : c.session.callbacks rn = some (.put index))
    (hread : A rn index statusOk → B index statusOk) :
    ∃ x later, W.served = x :: later ∧
      Delivers A B trace (W.answer x later) (c.onDataMessage rn statusOk rest) := by
  obtain ⟨later, hserved, hlater, hout, hqueue⟩ := outstanding_of_answer hs hclient hk
  obtain ⟨put, hput⟩ := isSome_of_mem_outstanding (hout ▸ List.mem_cons_self)
  -- the other puts stay as they are
  have hkeep : ∀ i ∈ later ++ c.unservedPuts,
      Function.update c.outstandingPuts index none i = c.outstandingPuts i := by
    have hnodup := c.nodup_outstanding
    rw [hout] at hnodup
    exact fun i hi =>
      Function.update_of_ne (fun he : i = index => (List.nodup_cons.1 hnodup).1 (he ▸ hi)) ..
  have hr := hs.realtime_of_callback hk
  have heq : c.onDataMessage rn statusOk rest = { c with
      session := c.session.receive rn rest
      outstandingPuts := Function.update c.outstandingPuts index none
      completions := (index, statusOk) :: c.completions } :=
    (onDataMessage_some hk ..).trans <|
      putAnswered_some (c := { c with session := c.session.receive rn rest }) hput statusOk
  have htail : PersistentConnection.outstanding { c with
      session := c.session.receive rn rest
      outstandingPuts := Function.update c.outstandingPuts index none
      completions := (index, statusOk) :: c.completions } = _ := outstanding_tail hout
  have hW : W.served = put :: later.filterMap c.outstandingPuts := by
    rw [h.served, hserved, List.filterMap_cons_some hput]
  refine ⟨put, _, hW, ?_⟩
  rw [heq]
  constructor
  · exact h.counter
  · intro i put' hput'
    by_cases he : i = index
    · rw [he] at hput'
      exact absurd (hput'.symm.trans (Function.update_self ..)) (Option.some_ne_none _)
    · exact h.puts i put' ((Function.update_of_ne he ..).symm.trans hput')
  · rw [htail, List.map_cons, List.reverse_cons, List.append_assoc, ← h.order, hout]
    rfl
  · rw [Window.all_answer hW, h.all]
  · show _ = ((c.session.receive rn rest).unread.filterMap fun x => x.2.putIndex).filterMap _
    rw [← hlater]
    exact (List.filterMap_congr fun i hi => hkeep i (List.mem_append_left _ hi)).symm
  · have hrest := h.outstanding
    rw [hW, hout, List.filterMap_cons_some hput, List.cons_append] at hrest
    rw [htail, List.filterMap_congr hkeep]
    exact (List.cons.inj hrest).2
  · rw [(Channel.queues_receive hs.numbered hclient).1]
    rintro ⟨action, k⟩ hx
    cases k with
    | put i =>
      obtain ⟨put', hput', ha⟩ := h.matched _ hx
      exact ⟨put', (hkeep i (hqueue action i hx)).trans hput', ha⟩
    | auth restore | stats => exact h.matched _ hx
  · exact fun _ => (h.tracked hr).receive hs.numbered hclient
  · intro n path data hmem hsession
    obtain ⟨k, hcallback⟩ := Option.isSome_iff_exists.1
      (h.tracked hr n _ hmem hsession ⟨path, data, rfl⟩)
    have hwaiting := Channel.mem_unserved (c := c.session) hmem hcallback
    obtain ⟨i, rfl, hput'⟩ := (h.matched _ hwaiting).exists_put
    exact ⟨i, (hkeep i (hqueue _ i hwaiting)).trans hput'⟩
  · exact h.answers.receive hclient
  · rintro x (_ | ⟨_, hx⟩)
    · exact hread (h.answers rn statusOk _ (hclient ▸ List.mem_cons_self) hk index rfl)
    · exact h.completions x hx

/-- Reading an answer. -/
theorem onDataMessage {rn : ℕ} {statusOk : Bool} {rest : List (ℕ × Bool)}
    (h : Delivers A B trace W c) (hs : Sound c)
    (hclient : c.session.toClient = (rn, statusOk) :: rest)
    (hanswer : ∀ index, A rn index statusOk → B index statusOk) :
    ∃ W', W.Quiet W' ∧ Delivers A B trace W' (c.onDataMessage rn statusOk rest) := by
  cases hk : c.session.callbacks rn with
  | none =>
    rw [onDataMessage_none hk]
    exact ⟨W, .same, h.receive hs.numbered hclient fun k he =>
      absurd (he.symm.trans hk) (Option.some_ne_none k)⟩
  | some k =>
    have hread : k.putIndex = none →
        Delivers A B trace W { c with session := c.session.receive rn rest } := fun hnone =>
      h.receive hs.numbered hclient fun k' he => Option.some.inj (hk.symm.trans he) ▸ hnone
    cases k with
    | put index =>
      obtain ⟨x, later, hnext, hanswered⟩ := h.putAnswered hs hclient hk (hanswer index)
      exact ⟨W.answer x later, .answer hnext, hanswered⟩
    | auth restore =>
      have hr := hs.realtime_of_callback hk
      rw [onDataMessage_some hk]
      exact authAnswered (hread rfl) (hs.numbered.receive hclient) hr restore statusOk
    | stats =>
      rw [onDataMessage_some hk]
      exact ⟨W, .same, hread rfl⟩

/-! ## Serving -/

/-- The server has served something that does not matter to the puts. -/
theorem servedOther (h : Delivers A B trace W c) {session : Channel (Action κ ν) Bool Callback}
    (hserved : session.unread.filterMap (fun x => x.2.putIndex) = c.servedPuts)
    (hunserved : ∀ x ∈ session.unserved, x ∈ c.session.unserved)
    (hsub : ∀ x ∈ session.toServer, x ∈ c.session.toServer)
    (hstart : session.sessionStart = c.session.sessionStart)
    (htracked : c.realtime = some .connected → session.Tracked Action.IsPut)
    (hanswers : session.Answers fun rn statusOk k =>
      ∀ index, k = .put index → A rn index statusOk) :
    Delivers A B trace W { c with session } :=
  h.withSession rfl rfl rfl hserved (fun x hx => h.matched x (hunserved x hx)) htracked
    (fun n path data hmem hsession => h.sent n path data (hsub _ hmem) (hstart ▸ hsession)) hanswers

section Serving

variable {rn : ℕ} {statusOk : Bool} {before after : List (ℕ × Action κ ν)}

theorem mem_of_mem_served {action x : Action κ ν} {n : ℕ}
    (hserver : c.session.toServer = before ++ (rn, action) :: after)
    (hmem : (n, x) ∈ before ++ after) : (n, x) ∈ c.session.toServer := by
  rw [hserver]
  exact ((List.sublist_cons_self ..).append_left _).subset hmem

/-- **The server serves the next put**, and the answer is for that put. -/
theorem servedPut {index : ℕ} {put : κ × ν} (h : Delivers A B trace W c) (hs : Sound c)
    (hserver : c.session.toServer = before ++ (rn, .put put.1 put.2) :: after)
    (hk : c.session.callbacks rn = some (.put index)) (hput : c.outstandingPuts index = some put)
    (hunserved : c.session.unserved = (.put put.1 put.2, .put index) ::
      (c.session.serve rn (before ++ after) statusOk).unserved)
    (hunread : (c.session.serve rn (before ++ after) statusOk).unread =
      c.session.unread ++ [(statusOk, .put index)]) (hnew : A rn index statusOk) :
    ∃ later, W.unserved = put :: later ∧
      Delivers A B trace (W.serve put later)
        { c with session := c.session.serve rn (before ++ after) statusOk } := by
  have hr := hs.realtime_of_callback hk
  have hstate : c.connectionState = .connected := by
    have hflight : .put index ∈ c.session.unserved.map Prod.snd := by
      rw [hunserved]
      exact List.mem_cons_self
    exact state_of_put hs.toTraffic (List.mem_append_right _ hflight)
  have hputs : c.unservedPuts = index ::
      (c.session.serve rn (before ++ after) statusOk).unserved.filterMap
        fun x => x.2.putIndex := by
    rw [unservedPuts, if_pos hstate, hunserved]
    rfl
  have hserved : servedPuts { c with session := c.session.serve rn (before ++ after) statusOk } =
      c.servedPuts ++ [index] := by
    rw [servedPuts, hunread, List.filterMap_append]
    rfl
  have hnext : W.unserved = put ::
      ((c.session.serve rn (before ++ after) statusOk).unserved.filterMap
        fun x => x.2.putIndex).filterMap c.outstandingPuts := by
    rw [h.unserved_eq hs.toTraffic, hputs, List.filterMap_cons_some hput]
  refine ⟨_, hnext, ?_⟩
  constructor
  · exact h.counter
  · exact h.puts
  · exact h.order
  · exact (Window.all_serve hnext).trans h.all
  · rw [hserved, List.filterMap_append, ← h.served, List.filterMap_cons_some hput]
    rfl
  · have hsplit := h.outstanding
    rw [hnext] at hsplit
    exact (List.append_assoc ..).trans hsplit
  · exact fun x hx => h.matched x (hunserved ▸ List.mem_cons_of_mem _ hx)
  · exact fun _ => (h.tracked hr).serve hserver statusOk
  · exact fun n path data hmem => h.sent n path data (mem_of_mem_served hserver hmem)
  · refine h.answers.serve fun k hk' i hi => ?_
    obtain rfl := Option.some.inj (hk.symm.trans hk')
    obtain rfl := Callback.put.inj hi
    exact hnew
  · exact h.completions

/-- **Serving**, for a client that is connected or not: the next put is served, or a put that is to
be served again, or something else.  A put of an earlier session may be any. -/
theorem serving [DataTree κ ν] {w : World κ ν} (h : Delivers A B trace W w.connection)
    (hs : Sound w.connection) {action : Action κ ν}
    (hserver : w.connection.session.toServer = before ++ (rn, action) :: after)
    (hnext : w.connection.session.IsNext before)
    (hnew : ∀ index put, w.connection.session.callbacks rn = some (.put index) →
      action = .put put.1 put.2 → (made trace)[index - 1]? = some put → A rn index statusOk) :
    (∃ put later, action = .put put.1 put.2 ∧ W.unserved = put :: later ∧
      Delivers A B trace (W.serve put later)
        (w.served rn (before ++ after) action statusOk).connection) ∨
    (w.connection.session.sessionStart ≤ rn →
      ∀ path data, action = .put path data → (path, data) ∈ W.unserved) ∧
      Delivers A B trace W (w.served rn (before ++ after) action statusOk).connection := by
  have hsub : ∀ x ∈ before ++ after, x ∈ w.connection.session.toServer := fun x =>
    mem_of_mem_served hserver
  have hhere : (rn, action) ∈ w.connection.session.toServer := by simp [hserver]
  by_cases hheard : w.connection.realtime = some .connected ∧
      w.connection.session.sessionStart ≤ rn
  · obtain ⟨hr, hsession⟩ := hheard
    rw [World.served, if_pos ⟨hr, hsession⟩]
    have htracked := (h.tracked hr).serve hserver statusOk
    rcases Channel.queues_serve hs.numbered hserver hnext statusOk with
      ⟨k, hk, hunserved, hunread⟩ | ⟨hk, hunserved, hunread⟩
    · have hmatches := h.matched (action, k) (hunserved ▸ List.mem_cons_self)
      cases k with
      | put index =>
        obtain ⟨put, hput, rfl⟩ := hmatches
        obtain ⟨later, hfirst, hserved⟩ := h.servedPut hs hserver hk hput hunserved hunread
          (hnew index put hk rfl (h.puts index put hput))
        exact Or.inl ⟨put, later, rfl, hfirst, hserved⟩
      | auth restore | stats =>
        refine Or.inr ⟨fun _ path data he => absurd he (hmatches path data), ?_⟩
        refine h.servedOther ?_ (fun x hx => ?_) hsub rfl (fun _ => htracked) ?_
        · rw [hunread, List.filterMap_append]
          exact List.append_nil _
        · exact hunserved ▸ List.mem_cons_of_mem _ hx
        · refine h.answers.serve fun k hk' i hi => ?_
          exact Callback.noConfusion ((Option.some.inj (hk.symm.trans hk')).trans hi)
    · refine Or.inr ⟨fun _ path data he => ?_, ?_⟩
      · have hsome := h.tracked hr rn action hhere hsession ⟨path, data, he⟩
        rw [hk] at hsome
        exact absurd hsome Bool.false_ne_true
      · refine h.servedOther ?_ (fun x hx => hunserved ▸ hx) hsub rfl (fun _ => htracked) ?_
        · rw [hunread]
          rfl
        · exact h.answers.serve fun k hk' => absurd (hk.symm.trans hk').symm (Option.some_ne_none k)
  · rw [World.served, if_neg hheard]
    refine Or.inr ⟨fun hsession path data he => ?_, ?_⟩
    · -- it is outstanding, and nothing is served but not answered
      have hstate : w.connection.connectionState ≠ .connected := fun he =>
        hheard ⟨by rw [hs.realtime, he, ConnectionState.socket], hsession⟩
      obtain ⟨index, hput⟩ := h.sent rn path data (he ▸ hhere) hsession
      rw [h.unserved_eq hs.toTraffic, unservedPuts, if_neg hstate]
      exact List.mem_filterMap.2 ⟨index, h.mem_outstanding hput, hput⟩
    · refine h.servedOther rfl (fun x hx => ?_) hsub rfl (fun hr => ?_) h.answers
      · rw [Channel.unserved, hserver, waiting_append, waiting_cons]
        rw [Channel.unserved, Channel.absorb, waiting_append] at hx
        exact (List.mem_append.1 hx).elim (List.mem_append_left _) fun hx =>
          List.mem_append_right _ (List.mem_append_right _ hx)
      · exact (h.tracked hr).absorb hserver

end Serving

end Delivers

end InstaGLAM.FirebaseDatabase
